import FluxPurr.Heater.AutomaticCandidate
import FluxPurr.Supply.BoundaryLookup

/-!
# What one APDO offers

The voltage that automatic heating may ask of an APDO is limited by the supply boundary where
that has an observation, and by the resistance of the heater otherwise
(`automaticHeaterPpsForApdo`).  `UsableLimit` says which limits these are without the lookup:
the request of a ceiling, the cold start, or the electrical limit.

The resistance and what follows from it are floating point numbers and given here
(`HeaterResistance`).
-/

namespace FluxPurr.Calibration.ManualPpsState

open FluxPurr.Heater
open FluxPurr.Pd (fusb302bPpsMinMv minHeaterContractMa selectBest)

variable (state : ManualPpsState)

abbrev thermalPlantAnchorMv : UInt16 := 20000

/-- The higher current, then the higher end, then the lower start. -/
def rangeIsBetter (candidate best : PpsApdo) : Bool :=
  if candidate.maxMa ≠ best.maxMa then best.maxMa < candidate.maxMa
  else if candidate.maxMv ≠ best.maxMv then best.maxMv < candidate.maxMv
  else candidate.minMv < best.minMv

def thermalPlantPpsRange : Option PpsApdo :=
  selectBest rangeIsBetter (state.apdos.filter fun apdo =>
    state.covers apdo thermalPlantAnchorMv ∧ minHeaterContractMa.toUInt16 ≤ apdo.maxMa)

/-- The end of the range in which the source has the power for 3 A. -/
def operationalMaxMv (boundedMaxMv : UInt16) : Option UInt16 :=
  match state.sourcePowerLimitMw, state.sourcePowerLimitMa with
  | some powerMw, some envelopeMa =>
      if 3000 ≤ envelopeMa then
        some (min ((powerMw * 1000 / 3000).toUInt16 / 100 * 100) boundedMaxMv)
      else none
  | none, none => some boundedMaxMv
  | _, _ => none

def thermalPlantSourceLimits : Option (UInt16 × UInt16 × UInt16) :=
  state.thermalPlantPpsRange.bind fun range =>
    let boundedMinMv := max (state.lowest range) fusb302bPpsMinMv.toUInt16
    (state.operationalMaxMv (min (state.highest range) 21000)).bind fun operationalMaxMv =>
      if operationalMaxMv < boundedMinMv then none
      else some (boundedMinMv, operationalMaxMv, 3000)

def thermalPlantSourcePowerLimitMw : UInt32 :=
  match state.sourcePowerLimitMw, state.sourcePowerLimitMa with
  | some powerMw, some currentMa => if 3000 ≤ currentMa then powerMw else 0
  | _, _ => 0

/-- The range of the boundary on an APDO. -/
def automaticBoundarySourceLimits (apdo : PpsApdo) : UInt16 × UInt16 :=
  let boundedMinMv := max (state.lowest apdo) fusb302bPpsMinMv.toUInt16
  let boundedMaxMv := min (state.highest apdo) heaterAdjustableMaxMv.toUInt16
  match state.thermalPlantSourceLimits with
  | some (sourceMinMv, sourceMaxMv, _) =>
      (max sourceMinMv boundedMinMv, min sourceMaxMv boundedMaxMv)
  | none => (boundedMinMv, boundedMaxMv)

end FluxPurr.Calibration.ManualPpsState

namespace FluxPurr.Heater

open FluxPurr.Pd (minHeaterContractMa)
open FluxPurr.Calibration (ManualPpsState PpsApdo)
open FluxPurr.Supply (SupplyBoundary BoundaryQuery BoundaryPoint)

/-! ## The candidate -/

/-- `default_estimated_heater_resistance_ohms` and the numbers that come from it. -/
structure HeaterResistance where
  /-- Finite and positive. -/
  isUsable : Bool
  electricalLimitMv : (budgetMa : ℕ) → ℕ
  powerMw : (allowedMv currentMa : ℕ) → (terminalCurrent : Bool) → ℕ

/-- What a call of the lookup reads: the state of the Wi-Fi driver, the stored boundary, the
temperature and the sensor. -/
structure AutomaticHeaterReading where
  wifiStarted : Option Bool
  boundary : Option SupplyBoundary
  temperatureCentiC : ℤ
  currentRtdMv : Option UInt16
  projectTemperature : UInt16 → Option ℤ
  resistance : HeaterResistance

def encodeAutomaticPpsCurrentMa (maxMa : ℕ) : ℕ := min maxMa maxAutomaticHeaterContractMa / 50 * 50

def apdoMinMv (apdo : PpsApdo) (requestMinMv : ℕ) : ℕ := max apdo.minMv.toNat requestMinMv

def apdoMaxMv (apdo : PpsApdo) (requestMaxMv hardwareMaxMv : ℕ) : ℕ :=
  min (min apdo.maxMv.toNat requestMaxMv) hardwareMaxMv

/-- Below 3 A only the terminal current will do, and only where it was observed. -/
def currentSuits (observed : Bool) (currentMa : ℕ) : Bool :=
  minHeaterContractMa ≤ currentMa ∨ observed ∧ currentMa = automaticTerminalCurrentMa

/-- The APDO is taken at `maxMa`. -/
def automaticHeaterPpsCandidateWithLimit (apdo : PpsApdo) (maxMa requestMinMv requestMaxMv
    hardwareMaxMv : ℕ) (resistance : HeaterResistance) (advertisementIndex : ℕ)
    (observedLimitMv : Option ℕ) : Option AutomaticHeaterPpsCandidate :=
  if ¬ resistance.isUsable then none
  else
    let minMv := apdoMinMv apdo requestMinMv
    let maxMv := apdoMaxMv apdo requestMaxMv hardwareMaxMv
    let currentMa := encodeAutomaticPpsCurrentMa maxMa
    if maxMv < minMv ∨ ¬ currentSuits observedLimitMv.isSome currentMa then none
    else
      let allowedMv := floorMvTo100mv
        (min maxMv (observedLimitMv.getD (resistance.electricalLimitMv currentMa)))
      if allowedMv < minMv then none
      else
        let terminalCurrent :=
          decide (observedLimitMv.isSome ∧ currentMa = automaticTerminalCurrentMa)
        some
          { minMv := minMv
            maxMv := maxMv
            currentMa := currentMa
            allowedMv := allowedMv
            powerMw := resistance.powerMw allowedMv currentMa terminalCurrent
            advertisementIndex := advertisementIndex
            boundaryApplied := observedLimitMv.isSome }

namespace AutomaticHeaterReading

variable (reading : AutomaticHeaterReading) (manualPps : ManualPpsState)

/-- The terminal current is looked up in the boundary of the 3 A scan. -/
def boundarySourceMaxMa (apdo : PpsApdo) (currentMa : ℕ) : ℕ :=
  if currentMa = automaticTerminalCurrentMa ∧ maxAutomaticHeaterContractMa ≤ apdo.maxMa.toNat then
    maxAutomaticHeaterContractMa
  else currentMa

def lookup (apdo : PpsApdo) (currentMa : ℕ) (currentRequestMv : Option ℕ) (wifiStarted : Bool) :
    BoundaryQuery where
  temperatureCentiC := reading.temperatureCentiC
  currentRtdMv := reading.currentRtdMv
  currentRequestMv := currentRequestMv
  currentMa := currentMa
  wifiStarted := wifiStarted
  sourceMinMv := apdo.minMv
  sourceMaxMv := apdo.maxMv
  operationalSourceMinMv := (manualPps.automaticBoundarySourceLimits apdo).1
  operationalSourceMaxMv := (manualPps.automaticBoundarySourceLimits apdo).2
  sourceMaxMa := boundarySourceMaxMa apdo currentMa
  sourcePowerLimitMw := manualPps.thermalPlantSourcePowerLimitMw

/-- The limit that was observed and the current it was observed at. -/
def observedLimit (query : BoundaryQuery) : Option (ℕ × ℕ) :=
  reading.boundary.bind fun boundary =>
    match boundary.safePoint query reading.projectTemperature with
    | some point => some (point.trackingRequestMv.toNat, point.requestCurrentMa.toNat)
    | none =>
        (boundary.safeRequestMvOrColdStart query reading.projectTemperature).map fun mv =>
          (mv, query.currentMa)

def selectedCurrentMa (query : BoundaryQuery) : ℕ :=
  ((reading.observedLimit query).map Prod.snd).getD query.currentMa

def automaticHeaterPpsForApdo (apdo : PpsApdo) (index budgetMa : ℕ)
    (currentRequestMv : Option ℕ) : Option AutomaticHeaterPpsCandidate :=
  reading.wifiStarted.bind fun wifiStarted =>
    let currentMa := encodeAutomaticPpsCurrentMa (min budgetMa apdo.maxMa.toNat)
    let query := reading.lookup manualPps apdo currentMa currentRequestMv wifiStarted
    automaticHeaterPpsCandidateWithLimit apdo (reading.selectedCurrentMa query)
      manualPps.requestMinMv.toNat manualPps.requestMaxMv.toNat heaterAdjustableMaxMv
      reading.resistance index ((reading.observedLimit query).map Prod.fst)

/-! ## The limit without the lookup -/

/-- The boundary has an answer for the query. -/
def Observes (query : BoundaryQuery) : Prop :=
  ∃ boundary, reading.boundary = some boundary ∧
    boundary.Applies query reading.projectTemperature ∧
    ((∃ point temperature,
        boundary.Eligible query reading.projectTemperature point temperature) ∨
      ∃ point, boundary.IsColdStart query reading.projectTemperature point)

/-- A limit for a request, at a current that the heater may draw. -/
inductive UsableLimit (query : BoundaryQuery) : ℕ → Prop where
  | ceiling (boundary : SupplyBoundary) (point : BoundaryPoint)
      (hboundary : reading.boundary = some boundary)
      (happlies : boundary.Applies query reading.projectTemperature)
      (hceiling : boundary.IsCeiling query reading.projectTemperature point)
      (hcurrent : currentSuits true
        (encodeAutomaticPpsCurrentMa point.requestCurrentMa.toNat) = true) :
      UsableLimit query point.trackingRequestMv.toNat
  | coldStart (boundary : SupplyBoundary) (point : BoundaryPoint)
      (hboundary : reading.boundary = some boundary)
      (happlies : boundary.Applies query reading.projectTemperature)
      (hnone : ∀ other temperature,
        ¬ boundary.Eligible query reading.projectTemperature other temperature)
      (hcold : boundary.IsColdStart query reading.projectTemperature point)
      (hcurrent : currentSuits true (encodeAutomaticPpsCurrentMa query.currentMa) = true) :
      UsableLimit query (max point.trackingRequestMv.toNat query.sourceMinMv.toNat)
  | electrical (hnone : ¬ reading.Observes query)
      (hcurrent : currentSuits false (encodeAutomaticPpsCurrentMa query.currentMa) = true) :
      UsableLimit query
        (reading.resistance.electricalLimitMv (encodeAutomaticPpsCurrentMa query.currentMa))

/-- The same by the lookup. -/
def usableLimitMv (query : BoundaryQuery) : Option ℕ :=
  let observed := reading.observedLimit query
  let currentMa := encodeAutomaticPpsCurrentMa (reading.selectedCurrentMa query)
  if ¬ currentSuits observed.isSome currentMa then none
  else some ((observed.map Prod.fst).getD (reading.resistance.electricalLimitMv currentMa))

variable {reading} {query : BoundaryQuery} {boundary : SupplyBoundary}

variable {point : BoundaryPoint}

theorem observes_of_eligible {temperature : ℤ} (hboundary : reading.boundary = some boundary)
    (happlies : boundary.Applies query reading.projectTemperature)
    (h : boundary.Eligible query reading.projectTemperature point temperature) :
    reading.Observes query :=
  ⟨boundary, hboundary, happlies, .inl ⟨point, temperature, h⟩⟩

variable {projectTemperature : UInt16 → Option ℤ}

theorem exists_eligible (h : boundary.IsCeiling query projectTemperature point) :
    ∃ temperature, boundary.Eligible query projectTemperature point temperature := by
  obtain ⟨temperature, heligible, _⟩ := h
  exact ⟨temperature, heligible⟩

/-- The lookup answers with a ceiling, with the cold start or not at all. -/
theorem observedLimit_cases (reading : AutomaticHeaterReading) (query : BoundaryQuery) :
    (∃ boundary point, reading.boundary = some boundary ∧
      boundary.Applies query reading.projectTemperature ∧
      boundary.IsCeiling query reading.projectTemperature point ∧
      reading.observedLimit query =
        some (point.trackingRequestMv.toNat, point.requestCurrentMa.toNat)) ∨
    (∃ boundary point, reading.boundary = some boundary ∧
      boundary.Applies query reading.projectTemperature ∧
      (∀ other temperature, ¬boundary.Eligible query reading.projectTemperature other temperature) ∧
      boundary.IsColdStart query reading.projectTemperature point ∧
      reading.observedLimit query =
        some (max point.trackingRequestMv.toNat query.sourceMinMv.toNat, query.currentMa)) ∨
    (¬reading.Observes query ∧ reading.observedLimit query = none) := by
  unfold observedLimit
  cases hboundary : reading.boundary with
  | none =>
    refine .inr (.inr ⟨?_, rfl⟩)
    rintro ⟨boundary, hsome, _⟩
    rw [hboundary] at hsome
    cases hsome
  | some boundary =>
    rw [Option.bind_some]
    by_cases happlies : boundary.Applies query reading.projectTemperature
    · cases hsafe : boundary.safePoint query reading.projectTemperature with
      | some point =>
        have hceiling := (SupplyBoundary.isCeiling_of_safePoint hsafe).2
        exact .inl ⟨boundary, point, rfl, happlies, hceiling, rfl⟩
      | none =>
        have hnone := SupplyBoundary.not_eligible_of_safePoint happlies hsafe
        rw [SupplyBoundary.safeRequestMvOrColdStart_of_applies happlies hsafe]
        cases hcold : boundary.coldStartPoint query reading.projectTemperature with
        | some point =>
          exact .inr (.inl ⟨boundary, point, rfl, happlies, hnone,
            SupplyBoundary.isColdStart_of_coldStartPoint hcold, rfl⟩)
        | none =>
          refine .inr (.inr ⟨?_, rfl⟩)
          rintro ⟨other, hother, _, hanswer⟩
          obtain rfl := Option.some.inj (hboundary.symm.trans hother)
          rcases hanswer with ⟨point, temperature, heligible⟩ | ⟨point, hstart⟩
          · exact hnone point temperature heligible
          · obtain ⟨found, hfound, _⟩ :=
              SupplyBoundary.coldStartPoint_of_isColdStart hstart
            rw [hcold] at hfound
            cases hfound
    · rw [SupplyBoundary.safePoint_of_not_applies happlies,
        SupplyBoundary.safeRequestMvOrColdStart_of_not_applies happlies]
      refine .inr (.inr ⟨?_, rfl⟩)
      rintro ⟨other, hother, hanswer, _⟩
      obtain rfl := Option.some.inj (hboundary.symm.trans hother)
      exact happlies hanswer

theorem usableLimitMv_of_observed {limitMv currentMa : ℕ}
    (h : reading.observedLimit query = some (limitMv, currentMa)) :
    reading.usableLimitMv query =
      if currentSuits true (encodeAutomaticPpsCurrentMa currentMa) = true then some limitMv
      else none := by
  unfold usableLimitMv selectedCurrentMa
  simp only [h, Option.map_some, Option.getD_some, Option.isSome_some]
  rw [ite_not]

theorem usableLimitMv_of_not_observed (h : reading.observedLimit query = none) :
    reading.usableLimitMv query =
      if currentSuits false (encodeAutomaticPpsCurrentMa query.currentMa) = true then
        some (reading.resistance.electricalLimitMv
          (encodeAutomaticPpsCurrentMa query.currentMa))
      else none := by
  unfold usableLimitMv selectedCurrentMa
  simp only [h, Option.map_none, Option.getD_none, Option.isSome_none]
  rw [ite_not]

theorem trackingRequestMv_eq_of_isColdStart {point other : BoundaryPoint}
    (hpoint : boundary.IsColdStart query projectTemperature point)
    (hother : boundary.IsColdStart query projectTemperature other) :
    point.trackingRequestMv = other.trackingRequestMv := by
  obtain ⟨found, hfound, hrequest⟩ := SupplyBoundary.coldStartPoint_of_isColdStart hpoint
  obtain ⟨same, hsame, hrequestOther⟩ := SupplyBoundary.coldStartPoint_of_isColdStart hother
  obtain rfl := Option.some.inj (hfound.symm.trans hsame)
  exact hrequest.symm.trans hrequestOther

variable {limitMv : ℕ}

theorem usableLimit_of_usableLimitMv
    (h : reading.usableLimitMv query = some limitMv) : reading.UsableLimit query limitMv := by
  rcases observedLimit_cases reading query with
    ⟨boundary, point, hboundary, happlies, hceiling, hobserved⟩ |
    ⟨boundary, point, hboundary, happlies, hnone, hcold, hobserved⟩ | ⟨hnone, hobserved⟩
  · rw [usableLimitMv_of_observed hobserved] at h
    split at h
    · rename_i hsuits
      obtain rfl := Option.some.inj h
      exact .ceiling boundary point hboundary happlies hceiling hsuits
    · cases h
  · rw [usableLimitMv_of_observed hobserved] at h
    split at h
    · rename_i hsuits
      obtain rfl := Option.some.inj h
      exact .coldStart boundary point hboundary happlies hnone hcold hsuits
    · cases h
  · rw [usableLimitMv_of_not_observed hobserved] at h
    split at h
    · rename_i hsuits
      obtain rfl := Option.some.inj h
      exact .electrical hnone hsuits
    · cases h

theorem usableLimitMv_of_usableLimit (h : reading.UsableLimit query limitMv) :
    reading.usableLimitMv query = some limitMv := by
  cases h with
  | ceiling boundary point hboundary happlies hceiling hsuits =>
    obtain ⟨temperature, heligible⟩ := exists_eligible hceiling
    rcases observedLimit_cases reading query with
      ⟨other, found, hother, _, hfound, hobserved⟩ | ⟨other, _, hother, _, hnone, _⟩ |
      ⟨hnone, _⟩
    · obtain rfl := Option.some.inj (hboundary.symm.trans hother)
      obtain ⟨hrequest, hcurrent⟩ :=
        hceiling.unique (SupplyBoundary.isValid_of_applies happlies) hfound
      rw [usableLimitMv_of_observed hobserved, ← hrequest, ← hcurrent, if_pos hsuits]
    · obtain rfl := Option.some.inj (hboundary.symm.trans hother)
      exact absurd heligible (hnone point temperature)
    · exact absurd (observes_of_eligible hboundary happlies heligible) hnone
  | coldStart boundary point hboundary happlies hnone hcold hsuits =>
    rcases observedLimit_cases reading query with
      ⟨other, found, hother, _, hfound, _⟩ | ⟨other, found, hother, _, _, hfound, hobserved⟩ |
      ⟨hnot, _⟩
    · obtain rfl := Option.some.inj (hboundary.symm.trans hother)
      obtain ⟨temperature, heligible⟩ := exists_eligible hfound
      exact absurd heligible (hnone found temperature)
    · obtain rfl := Option.some.inj (hboundary.symm.trans hother)
      rw [usableLimitMv_of_observed hobserved, if_pos hsuits,
        trackingRequestMv_eq_of_isColdStart hcold hfound]
    · exact absurd ⟨boundary, hboundary, happlies, .inr ⟨point, hcold⟩⟩ hnot
  | electrical hnone hsuits =>
    rcases observedLimit_cases reading query with
      ⟨boundary, point, hboundary, happlies, hceiling, _⟩ |
      ⟨boundary, point, hboundary, happlies, _, hcold, _⟩ | ⟨_, hobserved⟩
    · obtain ⟨temperature, heligible⟩ := exists_eligible hceiling
      exact absurd (observes_of_eligible hboundary happlies heligible) hnone
    · exact absurd ⟨boundary, hboundary, happlies, .inr ⟨point, hcold⟩⟩ hnone
    · rw [usableLimitMv_of_not_observed hobserved, if_pos hsuits]

theorem usableLimit_iff :
    reading.UsableLimit query limitMv ↔ reading.usableLimitMv query = some limitMv :=
  ⟨usableLimitMv_of_usableLimit, usableLimit_of_usableLimitMv⟩

/-! ## The candidate by its limit -/

variable {manualPps : ManualPpsState} {apdo : PpsApdo} {index budgetMa : ℕ}
  {currentRequestMv : Option ℕ} {wifiStarted : Bool}

/-- The query that the lookup makes for a budget. -/
def budgetLookup (reading : AutomaticHeaterReading) (manualPps : ManualPpsState)
    (apdo : PpsApdo) (budgetMa : ℕ) (currentRequestMv : Option ℕ) (wifiStarted : Bool) :
    BoundaryQuery :=
  reading.lookup manualPps apdo (encodeAutomaticPpsCurrentMa (min budgetMa apdo.maxMa.toNat))
    currentRequestMv wifiStarted

def candidateMinMv (manualPps : ManualPpsState) (apdo : PpsApdo) : ℕ :=
  apdoMinMv apdo manualPps.requestMinMv.toNat

def candidateMaxMv (manualPps : ManualPpsState) (apdo : PpsApdo) : ℕ :=
  apdoMaxMv apdo manualPps.requestMaxMv.toNat heaterAdjustableMaxMv

/-- What can be said of a candidate without the lookup. -/
structure OfferedBy (reading : AutomaticHeaterReading) (manualPps : ManualPpsState)
    (apdo : PpsApdo) (query : BoundaryQuery) (candidate : AutomaticHeaterPpsCandidate) :
    Prop where
  isUsable : reading.resistance.isUsable = true
  minMv : candidate.minMv = candidateMinMv manualPps apdo
  minMv_le : candidateMinMv manualPps apdo ≤ candidateMaxMv manualPps apdo
  limit : ∃ limitMv, reading.UsableLimit query limitMv ∧
    candidate.allowedMv = floorMvTo100mv (min (candidateMaxMv manualPps apdo) limitMv)
  minMv_le_allowedMv : candidateMinMv manualPps apdo ≤ candidate.allowedMv
  currentMa : candidate.currentMa = encodeAutomaticPpsCurrentMa (reading.selectedCurrentMa query)
  suits : currentSuits (reading.observedLimit query).isSome candidate.currentMa = true

theorem usableLimitMv_eq (hsuits : currentSuits (reading.observedLimit query).isSome
      (encodeAutomaticPpsCurrentMa (reading.selectedCurrentMa query)) = true) :
    reading.usableLimitMv query =
      some (((reading.observedLimit query).map Prod.fst).getD
        (reading.resistance.electricalLimitMv
          (encodeAutomaticPpsCurrentMa (reading.selectedCurrentMa query)))) := by
  unfold usableLimitMv
  exact if_neg (not_not.mpr hsuits)

variable {candidate : AutomaticHeaterPpsCandidate}

theorem exists_wifiStarted
    (h : reading.automaticHeaterPpsForApdo manualPps apdo index budgetMa currentRequestMv =
      some candidate) : ∃ wifiStarted, reading.wifiStarted = some wifiStarted := by
  obtain ⟨wifiStarted, hwifi, _⟩ := Option.bind_eq_some_iff.mp h
  exact ⟨wifiStarted, hwifi⟩

theorem offeredBy_of_candidate (hwifi : reading.wifiStarted = some wifiStarted)
    (h : reading.automaticHeaterPpsForApdo manualPps apdo index budgetMa currentRequestMv =
      some candidate) :
    candidate.advertisementIndex = index ∧
      OfferedBy reading manualPps apdo
        (reading.budgetLookup manualPps apdo budgetMa currentRequestMv wifiStarted)
        candidate := by
  unfold automaticHeaterPpsForApdo at h
  rw [hwifi, Option.bind_some] at h
  dsimp only at h
  rw [← budgetLookup] at h
  unfold automaticHeaterPpsCandidateWithLimit at h
  dsimp only at h
  rw [← candidateMinMv, ← candidateMaxMv, Option.isSome_map] at h
  split_ifs at h with husable hrange hallowed
  rw [not_or, not_lt, not_not] at hrange
  obtain rfl := Option.some.inj h
  exact ⟨rfl, husable, rfl, hrange.1,
    ⟨_, usableLimit_iff.mpr (usableLimitMv_eq hrange.2), rfl⟩, not_lt.mp hallowed, rfl,
    hrange.2⟩

theorem exists_candidate (hwifi : reading.wifiStarted = some wifiStarted)
    (husable : reading.resistance.isUsable = true)
    (hrange : candidateMinMv manualPps apdo ≤ candidateMaxMv manualPps apdo)
    (hlimit : reading.UsableLimit
      (reading.budgetLookup manualPps apdo budgetMa currentRequestMv wifiStarted) limitMv)
    (hallowed : candidateMinMv manualPps apdo ≤
      floorMvTo100mv (min (candidateMaxMv manualPps apdo) limitMv)) :
    ∃ candidate, reading.automaticHeaterPpsForApdo manualPps apdo index budgetMa
      currentRequestMv = some candidate := by
  have hvalue := usableLimit_iff.mp hlimit
  have hsuits : currentSuits
      (reading.observedLimit
        (reading.budgetLookup manualPps apdo budgetMa currentRequestMv wifiStarted)).isSome
      (encodeAutomaticPpsCurrentMa (reading.selectedCurrentMa
        (reading.budgetLookup manualPps apdo budgetMa currentRequestMv wifiStarted))) = true := by
    by_contra hnot
    unfold usableLimitMv at hvalue
    rw [if_pos hnot] at hvalue
    cases hvalue
  rw [usableLimitMv_eq hsuits] at hvalue
  unfold automaticHeaterPpsForApdo
  rw [hwifi, Option.bind_some]
  dsimp only
  rw [← budgetLookup]
  unfold automaticHeaterPpsCandidateWithLimit
  dsimp only
  rw [← candidateMinMv, ← candidateMaxMv, Option.isSome_map, if_neg (not_not.mpr husable),
    if_neg (by rw [not_or, not_lt, not_not]; exact ⟨hrange, hsuits⟩),
    Option.some.inj hvalue, if_neg (not_lt.mpr hallowed)]
  exact ⟨_, rfl⟩

theorem UsableLimit.unique {limitMv otherMv : ℕ} (h : reading.UsableLimit query limitMv)
    (hother : reading.UsableLimit query otherMv) : limitMv = otherMv :=
  Option.some.inj ((usableLimit_iff.mp h).symm.trans (usableLimit_iff.mp hother))

end AutomaticHeaterReading

end FluxPurr.Heater
