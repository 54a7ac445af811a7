import FluxPurr.Heater.BoundaryCandidate
import FluxPurr.Pd.RankedSelection
import FluxPurr.Supply.LookupBounds

/-!
# The fixed fallback

Where no APDO will do, automatic heating asks for a fixed contract of the source.  A contract
is safe when the supply boundary of the source has observed its voltage
(`automaticHeaterFixedRequestWithBoundary`), and of the safe contracts the one with the most
power is taken.  `IsChosen` says which one that is without the lookup and without the loop.

The lookup for a contract of less than 3 A finds points of no more than its current, and the
cold start finds a point of 3 A whatever the contract offers.  So the answer respects the
current of the source exactly when the chosen contract offers 3 A or the plate has reached a
point of its class (`respectsCurrent_iff`).
-/

namespace FluxPurr.Heater

open FluxPurr.Pd (fusb302bFixedMaxMv)
open FluxPurr.Supply (SupplyBoundary BoundaryQuery BoundaryPoint)

abbrev guaranteedHeaterMinMv : ℕ := 20000

/-! ## The request -/

def encodeAutomaticFixedCurrentMa (maxMa : ℕ) : ℕ :=
  min maxMa maxAutomaticHeaterContractMa / 10 * 10

def fixedVoltageRequest (voltageMv : ℕ) : Option VoltageRequest :=
  if fusb302bFixedMaxMv < voltageMv then none
  else
    match voltageMv with
    | 5000 => some .v5
    | 9000 => some .v9
    | 12000 => some .v12
    | 15000 => some .v15
    | 20000 => some .v20
    | _ => none

structure FixedCandidate where
  request : VoltageRequest
  requestMa : ℕ
  powerMw : ℕ
  advertisementIndex : ℕ
deriving DecidableEq, Repr

/-- The key is the power, then the lower voltage and the earlier object. -/
def FixedCandidate.isBetter (candidate best : FixedCandidate) : Bool :=
  if candidate.powerMw ≠ best.powerMw then best.powerMw < candidate.powerMw
  else if candidate.request.millivolts ≠ best.request.millivolts then
    candidate.request.millivolts < best.request.millivolts
  else candidate.advertisementIndex ≤ best.advertisementIndex

/-- The fixed object at an index, where the backend knows its voltage and it is safe. -/
def fixedCandidate (powerMw : ℕ → ℕ) (isSafe : (voltageMv requestMa : ℕ) → Bool)
    (entry : (ℕ × ℕ) × ℕ) : Option FixedCandidate :=
  (fixedVoltageRequest entry.1.1).bind fun request =>
    let requestMa := encodeAutomaticFixedCurrentMa entry.1.2
    if ¬ isSafe entry.1.1 requestMa then none
    else some ⟨request, requestMa, powerMw entry.1.1, entry.2⟩

def automaticHeaterFixedRequestWithSafety (source : SourceCapabilitiesView) (isUsable : Bool)
    (powerMw : ℕ → ℕ) (isSafe : (voltageMv requestMa : ℕ) → Bool) :
    Option (VoltageRequest × ℕ) :=
  if ¬ isUsable then none
  else
    (Pd.selectBest FixedCandidate.isBetter
      (source.fixed.zipIdx.filterMap (fixedCandidate powerMw isSafe))).map fun best =>
        (best.request, best.requestMa)

/-- What the strongest fixed object from 20 V on can deliver. -/
def SourceCapabilitiesView.powerLimitMw (source : SourceCapabilitiesView) : ℕ :=
  ((source.fixed.filter fun pdo => guaranteedHeaterMinMv ≤ pdo.1).map fun pdo =>
    pdo.1 * pdo.2 / 1000).max?.getD 0

/-- An APDO of the source is the one that was scanned. -/
def SourceCapabilitiesView.offersApdoOf (source : SourceCapabilitiesView)
    (boundary : SupplyBoundary) : Bool :=
  source.pps.any fun range =>
    range.minMv = boundary.advertisedMinMv.toNat ∧ range.maxMv = boundary.advertisedMaxMv.toNat ∧
      boundary.sourceMaxMa.toNat ≤ range.maxCurrentMa

namespace AutomaticHeaterReading

variable (reading : AutomaticHeaterReading)

/-- The source is as the boundary has it, and the fixed voltage counts as the request in
force. -/
def fixedQuery (boundary : SupplyBoundary) (wifiStarted : Bool) (voltageMv requestMa : ℕ) :
    BoundaryQuery where
  temperatureCentiC := reading.temperatureCentiC
  currentRtdMv := reading.currentRtdMv
  currentRequestMv := some voltageMv
  currentMa := requestMa
  wifiStarted := wifiStarted
  sourceMinMv := boundary.advertisedMinMv
  sourceMaxMv := boundary.advertisedMaxMv
  operationalSourceMinMv := boundary.sourceMinMv
  operationalSourceMaxMv := boundary.sourceMaxMv
  sourceMaxMa := boundary.sourceMaxMa.toNat
  sourcePowerLimitMw := boundary.sourcePowerLimitMw

def fixedIsSafe (boundary : SupplyBoundary) (wifiStarted : Bool) (voltageMv requestMa : ℕ) : Bool :=
  (boundary.safeRequestMvOrColdStart (reading.fixedQuery boundary wifiStarted voltageMv requestMa)
    reading.projectTemperature).any fun safeVoltageMv =>
      requestMa ≤ boundary.sourceMaxMa.toNat ∧ voltageMv ≤ safeVoltageMv ∧
        (boundary.sourcePowerLimitMw = 0 ∨
          voltageMv * requestMa / 1000 ≤ boundary.sourcePowerLimitMw.toNat)

/-- `powerMw` is the power of the heater at a voltage, in floating point. -/
def automaticHeaterFixedRequestWithBoundary (powerMw : ℕ → ℕ) (source : SourceCapabilitiesView) :
    Option (VoltageRequest × ℕ) :=
  reading.boundary.bind fun boundary =>
    if ¬ boundary.IsValid then none
    else if ¬ source.offersApdoOf boundary then none
    else if source.powerLimitMw ≠ boundary.sourcePowerLimitMw.toNat then none
    else
      reading.wifiStarted.bind fun wifiStarted =>
        automaticHeaterFixedRequestWithSafety source reading.resistance.isUsable powerMw
          (reading.fixedIsSafe boundary wifiStarted)

/-! ## The chosen contract -/

/-- The boundary is one of this source, and the lookup can be made. -/
structure Knows (source : SourceCapabilitiesView) (boundary : SupplyBoundary)
    (wifiStarted : Bool) : Prop where
  stored : reading.boundary = some boundary
  isValid : boundary.IsValid
  apdo : source.offersApdoOf boundary = true
  powerLimit : source.powerLimitMw = boundary.sourcePowerLimitMw.toNat
  wifi : reading.wifiStarted = some wifiStarted
  isUsable : reading.resistance.isUsable = true

/-- The plate has not reached any point of the class, and is colder than the coldest 3 A
tracking point. -/
def ColdStartOf (boundary : SupplyBoundary) (query : BoundaryQuery) (point : BoundaryPoint) :
    Prop :=
  (∀ other temperature,
      ¬boundary.Eligible query reading.projectTemperature other temperature) ∧
    boundary.IsColdStart query reading.projectTemperature point

/-- The fixed contract of this voltage and current is safe. -/
structure Authorises (boundary : SupplyBoundary) (wifiStarted : Bool)
    (voltageMv maxMa : ℕ) : Prop where
  voltage : voltageMv ∈ [5000, 9000, 12000, 15000, 20000]
  current : encodeAutomaticFixedCurrentMa maxMa ≤ boundary.sourceMaxMa.toNat
  power : boundary.sourcePowerLimitMw = 0 ∨
    voltageMv * encodeAutomaticFixedCurrentMa maxMa / 1000 ≤ boundary.sourcePowerLimitMw.toNat
  coverage : boundary.hasMinimumCoverage reading.projectTemperature = true
  wifi : boundary.wifiStarted = wifiStarted
  observed : ∃ point,
    (boundary.IsCeiling (reading.fixedQuery boundary wifiStarted voltageMv
        (encodeAutomaticFixedCurrentMa maxMa)) reading.projectTemperature point ∨
      reading.ColdStartOf boundary (reading.fixedQuery boundary wifiStarted voltageMv
        (encodeAutomaticFixedCurrentMa maxMa)) point) ∧
    voltageMv ≤ point.trackingRequestMv.toNat

/-- More power, or the lower voltage, or the earlier object. -/
def Outranks (powerMw : ℕ → ℕ) (voltageMv index otherMv otherIndex : ℕ) : Prop :=
  powerMw otherMv < powerMw voltageMv ∨
    powerMw otherMv = powerMw voltageMv ∧
      (voltageMv < otherMv ∨ voltageMv = otherMv ∧ index ≤ otherIndex)

/-- The safe contract of the source that outranks all the others. -/
structure IsChosen (powerMw : ℕ → ℕ) (source : SourceCapabilitiesView)
    (boundary : SupplyBoundary) (wifiStarted : Bool) (index voltageMv maxMa : ℕ) : Prop where
  offered : source.fixed[index]? = some (voltageMv, maxMa)
  authorised : reading.Authorises boundary wifiStarted voltageMv maxMa
  best : ∀ otherIndex otherMv otherMa, source.fixed[otherIndex]? = some (otherMv, otherMa) →
    reading.Authorises boundary wifiStarted otherMv otherMa →
      Outranks powerMw voltageMv index otherMv otherIndex

variable {reading} {boundary : SupplyBoundary} {query : BoundaryQuery}
  {wifiStarted : Bool} {voltageMv maxMa requestMa : ℕ}

/-! ## The lookup -/

theorem applies_fixedQuery_iff :
    boundary.Applies (reading.fixedQuery boundary wifiStarted voltageMv requestMa)
        reading.projectTemperature ↔
      boundary.IsValid ∧ boundary.wifiStarted = wifiStarted ∧
        boundary.hasMinimumCoverage reading.projectTemperature = true := by
  unfold SupplyBoundary.Applies SupplyBoundary.identifies fixedQuery
  rw [decide_eq_true_iff]
  constructor
  · rintro ⟨⟨hvalid, hwifi, -⟩, hcoverage⟩
    exact ⟨hvalid, hwifi, hcoverage⟩
  · rintro ⟨hvalid, hwifi, hcoverage⟩
    exact ⟨⟨hvalid, hwifi, rfl, rfl, rfl, rfl, rfl, rfl⟩, hcoverage⟩

theorem exists_answer {safeMv : ℕ}
    (h : boundary.safeRequestMvOrColdStart query reading.projectTemperature = some safeMv) :
    boundary.Applies query reading.projectTemperature ∧
      ∃ point, (boundary.IsCeiling query reading.projectTemperature point ∨
          reading.ColdStartOf boundary query point) ∧
        safeMv = max point.trackingRequestMv.toNat query.sourceMinMv.toNat := by
  by_cases happlies : boundary.Applies query reading.projectTemperature
  · refine ⟨happlies, ?_⟩
    rcases Option.eq_none_or_eq_some
      (boundary.safePoint query reading.projectTemperature) with hnone | ⟨point, hsafe⟩
    · rw [SupplyBoundary.safeRequestMvOrColdStart_of_applies happlies hnone] at h
      obtain ⟨point, hcold, rfl⟩ := Option.map_eq_some_iff.mp h
      exact ⟨point, .inr ⟨SupplyBoundary.not_eligible_of_safePoint happlies hnone,
        SupplyBoundary.isColdStart_of_coldStartPoint hcold⟩, rfl⟩
    · unfold SupplyBoundary.safeRequestMvOrColdStart SupplyBoundary.safePointOrColdStart at h
      rw [hsafe, Option.some_or, Option.map_some] at h
      exact ⟨point, .inl (SupplyBoundary.isCeiling_of_safePoint hsafe).2, (Option.some.inj h).symm⟩
  · rw [SupplyBoundary.safeRequestMvOrColdStart_of_not_applies happlies] at h
    cases h

theorem not_ceiling_of_coldStartOf {point other : BoundaryPoint}
    (hcold : reading.ColdStartOf boundary query point) :
    ¬boundary.IsCeiling query reading.projectTemperature other := by
  rintro ⟨temperature, heligible, -⟩
  exact hcold.1 other temperature heligible

theorem answer_unique (hvalid : boundary.IsValid) {point other : BoundaryPoint}
    (h : boundary.IsCeiling query reading.projectTemperature point ∨
      reading.ColdStartOf boundary query point)
    (hother : boundary.IsCeiling query reading.projectTemperature other ∨
      reading.ColdStartOf boundary query other) :
    point.trackingRequestMv = other.trackingRequestMv := by
  rcases h with hceiling | hcold
  · rcases hother with hceilingOther | hcoldOther
    · exact (hceiling.unique hvalid hceilingOther).1
    · exact absurd hceiling (not_ceiling_of_coldStartOf hcoldOther)
  · rcases hother with hceilingOther | hcoldOther
    · exact absurd hceilingOther (not_ceiling_of_coldStartOf hcold)
    · exact trackingRequestMv_eq_of_isColdStart hcold.2 hcoldOther.2

theorem safeRequest_of_answer (happlies : boundary.Applies query reading.projectTemperature)
    {point : BoundaryPoint}
    (h : boundary.IsCeiling query reading.projectTemperature point ∨
      reading.ColdStartOf boundary query point) :
    boundary.safeRequestMvOrColdStart query reading.projectTemperature =
      some (max point.trackingRequestMv.toNat query.sourceMinMv.toNat) := by
  have hanswer : ∃ safeMv,
      boundary.safeRequestMvOrColdStart query reading.projectTemperature = some safeMv := by
    rcases Option.eq_none_or_eq_some
      (boundary.safePoint query reading.projectTemperature) with hnone | ⟨found, hsafe⟩
    · have hnot := SupplyBoundary.not_eligible_of_safePoint happlies hnone
      rw [SupplyBoundary.safeRequestMvOrColdStart_of_applies happlies hnone]
      rcases h with ⟨temperature, heligible, -⟩ | ⟨-, hcold⟩
      · exact absurd heligible (hnot point temperature)
      · obtain ⟨other, hother, -⟩ := SupplyBoundary.coldStartPoint_of_isColdStart hcold
        rw [hother]
        exact ⟨_, rfl⟩
    · unfold SupplyBoundary.safeRequestMvOrColdStart SupplyBoundary.safePointOrColdStart
      rw [hsafe]
      exact ⟨_, rfl⟩
  obtain ⟨safeMv, hsafeMv⟩ := hanswer
  obtain ⟨-, other, hother, rfl⟩ := exists_answer hsafeMv
  rw [hsafeMv, answer_unique (SupplyBoundary.isValid_of_applies happlies) hother h]

theorem recorded_of_answer {point : BoundaryPoint}
    (h : boundary.IsCeiling query reading.projectTemperature point ∨
      reading.ColdStartOf boundary query point) : point ∈ boundary.recorded := by
  rcases h with ⟨temperature, heligible, -⟩ | ⟨-, temperature, hpoint, -⟩
  · exact heligible.recorded
  · exact hpoint.recorded

theorem advertisedMinMv_le (hvalid : boundary.IsValid) {point : BoundaryPoint}
    (h : point ∈ boundary.recorded) :
    boundary.advertisedMinMv.toNat ≤ point.trackingRequestMv.toNat := by
  have hmin := UInt16.le_iff_toNat_le.mp hvalid.advertisedMin
  have hrange := UInt16.le_iff_toNat_le.mp hvalid.sourceRange
  rcases (hvalid.points point h).voltage with hterminal | ⟨-, hlow, -⟩
  · have habove := UInt16.lt_iff_toNat_lt.mp hterminal.2.1
    omega
  · exact hmin.trans (UInt16.le_iff_toNat_le.mp hlow)

/-- A fixed contract that the backend knows is safe exactly if an answer covers its voltage. -/
theorem authorises_iff (hvalid : boundary.IsValid) :
    reading.Authorises boundary wifiStarted voltageMv maxMa ↔
      voltageMv ∈ [5000, 9000, 12000, 15000, 20000] ∧
        reading.fixedIsSafe boundary wifiStarted voltageMv
          (encodeAutomaticFixedCurrentMa maxMa) = true := by
  unfold fixedIsSafe
  constructor
  · rintro ⟨hvoltage, hcurrent, hpower, hcoverage, hwifi, point, hanswer, hle⟩
    refine ⟨hvoltage, ?_⟩
    rw [safeRequest_of_answer (applies_fixedQuery_iff.mpr ⟨hvalid, hwifi, hcoverage⟩) hanswer,
      Option.any_some, decide_eq_true_iff]
    exact ⟨hcurrent, hle.trans (le_max_left _ _), hpower⟩
  · rintro ⟨hvoltage, hsafe⟩
    obtain ⟨safeMv, hsafeMv, hwithin⟩ := (Option.any_eq_true _ _).mp hsafe
    obtain ⟨hcurrent, hle, hpower⟩ := of_decide_eq_true hwithin
    obtain ⟨happlies, point, hanswer, rfl⟩ := exists_answer hsafeMv
    obtain ⟨-, hwifi, hcoverage⟩ := applies_fixedQuery_iff.mp happlies
    refine ⟨hvoltage, hcurrent, hpower, hcoverage, hwifi, point, hanswer, ?_⟩
    have hmin := advertisedMinMv_le hvalid (recorded_of_answer hanswer)
    exact hle.trans (max_le le_rfl hmin)

end AutomaticHeaterReading

/-! ## The loop over the source -/

namespace FixedCandidate

theorem isBetter_iff {candidate best : FixedCandidate} :
    candidate.isBetter best = true ↔
      best.powerMw < candidate.powerMw ∨
        best.powerMw = candidate.powerMw ∧
          (candidate.request.millivolts < best.request.millivolts ∨
            candidate.request.millivolts = best.request.millivolts ∧
              candidate.advertisementIndex ≤ best.advertisementIndex) := by
  unfold isBetter
  split_ifs with hpower hvoltage
  · rw [decide_eq_true_iff]
    omega
  · rw [decide_eq_true_iff]
    omega
  · rw [decide_eq_true_iff]
    omega

theorem isBetter_trans (first second third : FixedCandidate)
    (h : first.isBetter second = true) (hnext : second.isBetter third = true) :
    first.isBetter third = true := by
  rw [isBetter_iff] at *
  omega

theorem isBetter_total {first second : FixedCandidate} (h : first.isBetter second = false) :
    second.isBetter first = true := by
  have hnot := mt isBetter_iff.mpr (ne_true_of_eq_false h)
  rw [isBetter_iff]
  omega

end FixedCandidate

open FixedCandidate

theorem fixedVoltageRequest_eq_some_iff {voltageMv : ℕ} {request : VoltageRequest} :
    fixedVoltageRequest voltageMv = some request ↔
      voltageMv ∈ [5000, 9000, 12000, 15000, 20000] ∧ request.millivolts = voltageMv := by
  constructor
  · intro h
    unfold fixedVoltageRequest at h
    split_ifs at h
    split at h
    all_goals first
      | (obtain rfl := Option.some.inj h; decide)
      | cases h
  · rintro ⟨hvoltage, rfl⟩
    cases request <;> first | rfl | simp [VoltageRequest.millivolts] at hvoltage

section

variable {source : SourceCapabilitiesView} {powerMw : ℕ → ℕ}
  {isSafe : (voltageMv requestMa : ℕ) → Bool}

theorem mem_fixedCandidates {candidate : FixedCandidate} :
    candidate ∈ source.fixed.zipIdx.filterMap (fixedCandidate powerMw isSafe) ↔
      ∃ voltageMv maxMa, source.fixed[candidate.advertisementIndex]? = some (voltageMv, maxMa) ∧
        fixedVoltageRequest voltageMv = some candidate.request ∧
        isSafe voltageMv (encodeAutomaticFixedCurrentMa maxMa) = true ∧
        candidate.requestMa = encodeAutomaticFixedCurrentMa maxMa ∧
        candidate.powerMw = powerMw voltageMv := by
  rw [List.mem_filterMap]
  constructor
  · rintro ⟨⟨⟨voltageMv, maxMa⟩, index⟩, hmem, hfound⟩
    have hoffered := List.mem_zipIdx_iff_getElem?.mp hmem
    obtain ⟨request, hrequest, hsafe⟩ := Option.bind_eq_some_iff.mp hfound
    dsimp only at hsafe
    split_ifs at hsafe with hsafe'
    obtain rfl := Option.some.inj hsafe
    exact ⟨voltageMv, maxMa, hoffered, hrequest, hsafe', rfl, rfl⟩
  · rintro ⟨voltageMv, maxMa, hoffered, hrequest, hsafe, hcurrent, hpower⟩
    refine ⟨((voltageMv, maxMa), candidate.advertisementIndex),
      List.mem_zipIdx_iff_getElem?.mpr hoffered, ?_⟩
    unfold fixedCandidate
    dsimp only
    rw [hrequest, Option.bind_some, if_neg (not_not.mpr hsafe), ← hcurrent, ← hpower]

/-- The loop keeps the candidate that is better than all the others. -/
theorem isBetter_of_selected {candidates : List FixedCandidate} {best : FixedCandidate}
    (h : Pd.selectBest isBetter candidates = some best) :
    best ∈ candidates ∧ ∀ other ∈ candidates, best.isBetter other = true := by
  have hcompares : candidates.Pairwise
      (Pd.ComparesAs isBetter id fun first second =>
        first.isBetter second = true) := by
    apply List.pairwise_of_forall
    intro earlier later
    exact ⟨id, isBetter_total⟩
  have hall : (candidates.filter fun _ => true).map id = candidates := by
    rw [List.filter_true, List.map_id]
  rw [← hall] at h
  obtain ⟨found, hfound, rfl⟩ := Pd.isBest_of_selectBest isBetter_trans hcompares h
  refine ⟨hfound.mem, ?_⟩
  intro other hother
  rcases hfound.preferred other hother rfl with rfl | hbetter
  · rw [isBetter_iff]
    exact .inr ⟨rfl, .inr ⟨rfl, le_rfl⟩⟩
  · exact hbetter

end

namespace AutomaticHeaterReading

variable {reading : AutomaticHeaterReading} {source : SourceCapabilitiesView}
  {boundary : SupplyBoundary} {wifiStarted : Bool} {powerMw : ℕ → ℕ}

/-- The source, with the boundary that knows it, decides the request. -/
theorem request_of_knows (h : reading.Knows source boundary wifiStarted) :
    reading.automaticHeaterFixedRequestWithBoundary powerMw source =
      (Pd.selectBest isBetter (source.fixed.zipIdx.filterMap
        (fixedCandidate powerMw (reading.fixedIsSafe boundary wifiStarted)))).map fun best =>
          (best.request, best.requestMa) := by
  unfold automaticHeaterFixedRequestWithBoundary automaticHeaterFixedRequestWithSafety
  rw [h.stored, Option.bind_some, if_neg (not_not.mpr h.isValid), if_neg (not_not.mpr h.apdo),
    if_neg (not_not.mpr h.powerLimit), h.wifi, Option.bind_some, if_neg (not_not.mpr h.isUsable)]

theorem knows_of_request {answer : VoltageRequest × ℕ}
    (h : reading.automaticHeaterFixedRequestWithBoundary powerMw source = some answer) :
    ∃ boundary wifiStarted, reading.Knows source boundary wifiStarted := by
  unfold automaticHeaterFixedRequestWithBoundary at h
  obtain ⟨boundary, hstored, h⟩ := Option.bind_eq_some_iff.mp h
  split_ifs at h with hvalid hapdo hpower
  obtain ⟨wifiStarted, hwifi, h⟩ := Option.bind_eq_some_iff.mp h
  unfold automaticHeaterFixedRequestWithSafety at h
  split_ifs at h with husable
  exact ⟨boundary, wifiStarted, hstored, hvalid, hapdo, not_not.mp hpower, hwifi, husable⟩

theorem mem_candidates_iff (hvalid : boundary.IsValid) {candidate : FixedCandidate} :
    candidate ∈ source.fixed.zipIdx.filterMap
        (fixedCandidate powerMw (reading.fixedIsSafe boundary wifiStarted)) ↔
      ∃ maxMa, source.fixed[candidate.advertisementIndex]? =
          some (candidate.request.millivolts, maxMa) ∧
        reading.Authorises boundary wifiStarted candidate.request.millivolts maxMa ∧
        candidate.requestMa = encodeAutomaticFixedCurrentMa maxMa ∧
        candidate.powerMw = powerMw candidate.request.millivolts := by
  rw [mem_fixedCandidates]
  constructor
  · rintro ⟨voltageMv, maxMa, hoffered, hrequest, hsafe, hcurrent, hpower⟩
    obtain ⟨hvoltage, rfl⟩ := fixedVoltageRequest_eq_some_iff.mp hrequest
    exact ⟨maxMa, hoffered, (authorises_iff hvalid).mpr ⟨hvoltage, hsafe⟩, hcurrent, hpower⟩
  · rintro ⟨maxMa, hoffered, hauthorised, hcurrent, hpower⟩
    obtain ⟨hvoltage, hsafe⟩ := (authorises_iff hvalid).mp hauthorised
    exact ⟨_, maxMa, hoffered, fixedVoltageRequest_eq_some_iff.mpr ⟨hvoltage, rfl⟩, hsafe,
      hcurrent, hpower⟩

variable {index voltageMv maxMa : ℕ}

theorem exists_candidate_of_authorises (powerMw : ℕ → ℕ) (hvalid : boundary.IsValid)
    (hoffered : source.fixed[index]? = some (voltageMv, maxMa))
    (h : reading.Authorises boundary wifiStarted voltageMv maxMa) :
    ∃ request : VoltageRequest, request.millivolts = voltageMv ∧
      (⟨request, encodeAutomaticFixedCurrentMa maxMa, powerMw voltageMv, index⟩ :
        FixedCandidate) ∈ source.fixed.zipIdx.filterMap
          (fixedCandidate powerMw (reading.fixedIsSafe boundary wifiStarted)) := by
  have hrequest : ∃ request, fixedVoltageRequest voltageMv = some request := by
    have hvoltage := h.voltage
    simp only [List.mem_cons, List.not_mem_nil, or_false] at hvoltage
    rcases hvoltage with rfl | rfl | rfl | rfl | rfl <;> exact ⟨_, rfl⟩
  obtain ⟨request, hrequest⟩ := hrequest
  obtain ⟨-, rfl⟩ := fixedVoltageRequest_eq_some_iff.mp hrequest
  exact ⟨request, rfl, (mem_candidates_iff hvalid).mpr ⟨maxMa, hoffered, h, rfl, rfl⟩⟩

theorem isChosen_of_selected (hvalid : boundary.IsValid) {best : FixedCandidate}
    (h : Pd.selectBest isBetter (source.fixed.zipIdx.filterMap
      (fixedCandidate powerMw (reading.fixedIsSafe boundary wifiStarted))) = some best) :
    ∃ maxMa, best.requestMa = encodeAutomaticFixedCurrentMa maxMa ∧
      reading.IsChosen powerMw source boundary wifiStarted best.advertisementIndex
        best.request.millivolts maxMa := by
  obtain ⟨hmem, hbetter⟩ := isBetter_of_selected h
  obtain ⟨maxMa, hoffered, hauthorised, hcurrent, hpower⟩ := (mem_candidates_iff hvalid).mp hmem
  refine ⟨maxMa, hcurrent, hoffered, hauthorised, ?_⟩
  intro otherIndex otherMv otherMa hother hauthorisedOther
  obtain ⟨request, rfl, hcandidate⟩ :=
    exists_candidate_of_authorises powerMw hvalid hother hauthorisedOther
  have hranked := isBetter_iff.mp (hbetter _ hcandidate)
  rw [hpower] at hranked
  exact hranked

theorem IsChosen.unique {index voltageMv maxMa otherIndex otherMv otherMa : ℕ}
    (h : reading.IsChosen powerMw source boundary wifiStarted index voltageMv maxMa)
    (hother : reading.IsChosen powerMw source boundary wifiStarted otherIndex otherMv otherMa) :
    voltageMv = otherMv ∧ maxMa = otherMa := by
  have hranked := h.best otherIndex otherMv otherMa hother.offered hother.authorised
  have hrankedOther := hother.best index voltageMv maxMa h.offered h.authorised
  unfold Outranks at hranked hrankedOther
  have hindex : index = otherIndex := by omega
  have hoffered := h.offered
  rw [hindex, hother.offered] at hoffered
  obtain ⟨rfl, rfl⟩ := Prod.mk.inj (Option.some.inj hoffered)
  exact ⟨rfl, rfl⟩

theorem request_eq_some_iff (h : reading.Knows source boundary wifiStarted)
    {request : VoltageRequest} {requestMa : ℕ} :
    reading.automaticHeaterFixedRequestWithBoundary powerMw source = some (request, requestMa) ↔
      ∃ index maxMa, requestMa = encodeAutomaticFixedCurrentMa maxMa ∧
        reading.IsChosen powerMw source boundary wifiStarted index request.millivolts maxMa := by
  rw [request_of_knows h]
  constructor
  · intro hfound
    obtain ⟨best, hselected, hpair⟩ := Option.map_eq_some_iff.mp hfound
    obtain ⟨rfl, rfl⟩ := Prod.mk.inj hpair
    obtain ⟨maxMa, hcurrent, hchosen⟩ := isChosen_of_selected h.isValid hselected
    exact ⟨best.advertisementIndex, maxMa, hcurrent, hchosen⟩
  · rintro ⟨index, maxMa, rfl, hchosen⟩
    obtain ⟨same, hsame, hcandidate⟩ := exists_candidate_of_authorises powerMw
      h.isValid hchosen.offered hchosen.authorised
    rcases Option.eq_none_or_eq_some (Pd.selectBest isBetter
      (source.fixed.zipIdx.filterMap (fixedCandidate powerMw
        (reading.fixedIsSafe boundary wifiStarted)))) with hnone | ⟨best, hselected⟩
    · rw [Pd.selectBest_eq_none_iff.mp hnone] at hcandidate
      cases hcandidate
    · obtain ⟨bestMa, hcurrent, hbest⟩ := isChosen_of_selected h.isValid hselected
      obtain ⟨hvoltage, rfl⟩ := hbest.unique hchosen
      rw [hselected, Option.map_some, hcurrent]
      have hrequest : best.request = request := by
        have hmem := hbest.authorised.voltage
        have hbestRequest := fixedVoltageRequest_eq_some_iff.mpr ⟨hmem, rfl⟩
        have hsameRequest := fixedVoltageRequest_eq_some_iff.mpr ⟨hmem, hvoltage.symm⟩
        exact Option.some.inj (hbestRequest.symm.trans hsameRequest)
      rw [hrequest]

/-! ## The current of the source -/

/-- The fixed contract offers the current, and a plate was observed at its voltage that drew no
more.  A cold start, which was observed at 3 A, needs 3 A. -/
structure RespectsCurrent (reading : AutomaticHeaterReading) (source : SourceCapabilitiesView)
    (voltageMv requestMa : ℕ) : Prop where
  offered : ∃ maxMa, (voltageMv, maxMa) ∈ source.fixed ∧ requestMa ≤ maxMa
  observed : ∃ boundary, reading.boundary = some boundary ∧ ∃ point ∈ boundary.recorded,
    voltageMv ≤ point.trackingRequestMv.toNat ∧ point.requestCurrentMa.toNat ≤ requestMa
  coldStart : ∀ boundary wifiStarted point, reading.boundary = some boundary →
    reading.wifiStarted = some wifiStarted →
      reading.ColdStartOf boundary
        (reading.fixedQuery boundary wifiStarted voltageMv requestMa) point → 3000 ≤ requestMa

/-- A contract of 3 A, or one for which the plate has reached a point. -/
def SuitsCurrent (reading : AutomaticHeaterReading) (boundary : SupplyBoundary)
    (wifiStarted : Bool) (voltageMv maxMa : ℕ) : Prop :=
  3000 ≤ maxMa ∨ ∃ point temperature,
    boundary.Eligible (reading.fixedQuery boundary wifiStarted voltageMv
      (encodeAutomaticFixedCurrentMa maxMa)) reading.projectTemperature point temperature

theorem encodeAutomaticFixedCurrentMa_le (maxMa : ℕ) :
    encodeAutomaticFixedCurrentMa maxMa ≤ maxMa := by
  unfold encodeAutomaticFixedCurrentMa
  omega

theorem threeAmp_le_encode_iff {maxMa : ℕ} :
    3000 ≤ encodeAutomaticFixedCurrentMa maxMa ↔ 3000 ≤ maxMa := by
  show 3000 ≤ min maxMa 3000 / 10 * 10 ↔ 3000 ≤ maxMa
  omega

theorem threeAmp_of_isColdStart {query : BoundaryQuery} {projectTemperature : UInt16 → Option ℤ}
    {point : BoundaryPoint} (h : boundary.IsColdStart query projectTemperature point) :
    point.requestCurrentMa = 3000 := by
  obtain ⟨temperature, hpoint, -⟩ := h
  exact (of_decide_eq_true hpoint.threeAmp).1

theorem respectsCurrent_of_suits (h : reading.Knows source boundary wifiStarted)
    (hchosen : reading.IsChosen powerMw source boundary wifiStarted index voltageMv maxMa)
    (hsuits : reading.SuitsCurrent boundary wifiStarted voltageMv maxMa) :
    reading.RespectsCurrent source voltageMv (encodeAutomaticFixedCurrentMa maxMa) := by
  obtain ⟨point, hanswer, hvoltage⟩ := hchosen.authorised.observed
  refine ⟨⟨maxMa, List.mem_of_getElem? hchosen.offered, encodeAutomaticFixedCurrentMa_le maxMa⟩,
    ⟨boundary, h.stored, point, recorded_of_answer hanswer, hvoltage, ?_⟩, ?_⟩
  · rcases hanswer with ⟨temperature, heligible, -⟩ | hcold
    · exact SupplyBoundary.requestCurrentMa_le_of_inClass heligible.inClass
    · rcases hsuits with hthree | ⟨other, temperature, heligible⟩
      · rw [threeAmp_of_isColdStart hcold.2]
        exact threeAmp_le_encode_iff.mpr hthree
      · exact absurd heligible (hcold.1 other temperature)
  · intro stored wifi other hstored hwifi hcold
    obtain rfl := Option.some.inj (h.stored.symm.trans hstored)
    obtain rfl := Option.some.inj (h.wifi.symm.trans hwifi)
    rcases hsuits with hthree | ⟨found, temperature, heligible⟩
    · exact threeAmp_le_encode_iff.mpr hthree
    · exact absurd heligible (hcold.1 found temperature)

theorem suits_of_respectsCurrent (h : reading.Knows source boundary wifiStarted)
    (hchosen : reading.IsChosen powerMw source boundary wifiStarted index voltageMv maxMa)
    (hrespects : reading.RespectsCurrent source voltageMv
      (encodeAutomaticFixedCurrentMa maxMa)) :
    reading.SuitsCurrent boundary wifiStarted voltageMv maxMa := by
  obtain ⟨point, hanswer, -⟩ := hchosen.authorised.observed
  rcases hanswer with ⟨temperature, heligible, -⟩ | hcold
  · exact .inr ⟨point, temperature, heligible⟩
  · exact .inl (threeAmp_le_encode_iff.mp
      (hrespects.coldStart boundary wifiStarted point h.stored h.wifi hcold))

/-- The request respects the current of the source exactly if the chosen contract offers 3 A or
the plate has reached a point for it. -/
theorem respectsCurrent_iff (reading : AutomaticHeaterReading) (powerMw : ℕ → ℕ)
    (source : SourceCapabilitiesView) :
    (∀ request requestMa,
      reading.automaticHeaterFixedRequestWithBoundary powerMw source =
          some (request, requestMa) →
        reading.RespectsCurrent source request.millivolts requestMa) ↔
    ∀ boundary wifiStarted index voltageMv maxMa, reading.Knows source boundary wifiStarted →
      reading.IsChosen powerMw source boundary wifiStarted index voltageMv maxMa →
        reading.SuitsCurrent boundary wifiStarted voltageMv maxMa := by
  constructor
  · intro hrespects boundary wifiStarted index voltageMv maxMa hknows hchosen
    obtain ⟨request, rfl, -⟩ := exists_candidate_of_authorises powerMw
      hknows.isValid hchosen.offered hchosen.authorised
    have hrequest := (request_eq_some_iff hknows).mpr ⟨index, maxMa, rfl, hchosen⟩
    exact suits_of_respectsCurrent hknows hchosen (hrespects _ _ hrequest)
  · intro hsuits request requestMa hrequest
    obtain ⟨boundary, wifiStarted, hknows⟩ := knows_of_request hrequest
    obtain ⟨index, maxMa, rfl, hchosen⟩ := (request_eq_some_iff hknows).mp hrequest
    exact respectsCurrent_of_suits hknows hchosen
      (hsuits boundary wifiStarted index _ maxMa hknows hchosen)

/-- A plate at 20 °C that was scanned from 40 °C on, at 3 A. -/
def coldPlate : AutomaticHeaterReading where
  wifiStarted := some false
  boundary := some
    { adc := { dividerSupplyMv := 3300 }
      sourceMinMv := 5500
      sourceMaxMv := 20000
      sourceMaxMa := 3000
      advertisedMinMv := 5000
      advertisedMaxMv := 21000
      pointCount := 2
      points := ((Vector.replicate Supply.maxBoundaryPoints {}).setIfInBounds 0
          { rtdMv := 1200, vinMv := 1200, requestCurrentMa := 3000, trackingRequestMv := 9000
            trackingOnly := true }).setIfInBounds 1
          { rtdMv := 3000, vinMv := 1200, requestCurrentMa := 3000, trackingRequestMv := 15000
            trackingOnly := true } }
  temperatureCentiC := 2000
  currentRtdMv := some 1000
  projectTemperature := fun rtdMv => some (10 * rtdMv.toNat - 8000)
  resistance := { isUsable := true, electricalLimitMv := fun _ => 9000, powerMw := fun _ _ _ => 0 }

/-- The source of the scan, which offers 9 V at 2 A. -/
def weakFixedSource : SourceCapabilitiesView where
  fixed := [(5000, 3000), (9000, 2000)]
  pps := [⟨5000, 21000, 3000⟩]

/-- The cold start at 3 A gives 9 V to a contract of 2 A. -/
theorem cold_start_exceeds_source :
    ¬∀ (reading : AutomaticHeaterReading) (powerMw : ℕ → ℕ) (source : SourceCapabilitiesView)
      (request : VoltageRequest) (requestMa : ℕ),
      reading.automaticHeaterFixedRequestWithBoundary powerMw source =
          some (request, requestMa) →
        reading.RespectsCurrent source request.millivolts requestMa := by
  intro h
  obtain ⟨boundary, hstored, point, hpoint, -, hcurrent⟩ :=
    (h coldPlate (fun voltageMv => voltageMv * voltageMv / 3200) weakFixedSource .v9 2000
      (by decide +kernel)).observed
  obtain rfl := Option.some.inj hstored
  have hthree : ∀ point ∈ SupplyBoundary.recorded (coldPlate.boundary.get rfl),
      point.requestCurrentMa.toNat = 3000 := by decide +kernel
  rw [hthree point hpoint] at hcurrent
  omega

end AutomaticHeaterReading

end FluxPurr.Heater
