import FluxPurr.Supply.Scan
import Mathlib.Data.List.MinMax
import Mathlib.Data.Prod.Lex

/-!
# Looking a supply boundary up

Automatic heating may ask a source only for what its boundary has observed.  A lookup names
the source, the temperature of the plate and the request in force, and the boundary answers
with its ceiling (`safePoint`): of the points that are eligible now, the hottest, and among
those the one with the highest request.  Before the first observed temperature there is no
eligible point, and the coldest 3 A tracking point stands in (`safePointOrColdStart`).

A point is eligible when the plate has reached it.  Two rules make an exception, and both
read the request in force: a tracking point stays eligible across a small dip while it is
the one requested, and a terminal point asks for a margin until the request has come within
one step of it (`promotionRequiresMargin`).
-/

namespace FluxPurr.Supply

/-- How far above an observation its proof is carried. -/
abbrev maxObservedLookupGapCentiC : ℤ := 1800
abbrev maxConfirmedRequestHandoffGapCentiC : ℤ := 300
abbrev maxTerminalPreHandoffGapCentiC : ℤ := 1200
abbrev terminalHandoffRequestStepMv : ℕ := 500

structure BoundaryQuery where
  temperatureCentiC : ℤ
  currentRtdMv : Option UInt16
  currentRequestMv : Option ℕ
  currentMa : ℕ
  wifiStarted : Bool
  /-- The APDO as advertised, which identifies the calibrated source. -/
  sourceMinMv : UInt16
  sourceMaxMv : UInt16
  /-- The range of the scan, within the power of the source. -/
  operationalSourceMinMv : UInt16
  operationalSourceMaxMv : UInt16
  sourceMaxMa : ℕ
  sourcePowerLimitMw : UInt32

namespace SupplyBoundary

variable (boundary : SupplyBoundary) (query : BoundaryQuery)
  (projectTemperature : UInt16 → Option ℤ)

/-! ## The lookup -/

def hasMinimumCoverage : Bool :=
  boundary.recorded.any fun point =>
    (projectTemperature point.rtdMv).any fun temperature =>
      minBoundaryCoverageCentiC ≤ temperature

/-- A valid boundary of the source that is asked for. -/
def identifies : Bool :=
  boundary.IsValid ∧ boundary.wifiStarted = query.wifiStarted ∧
    boundary.advertisedMinMv = query.sourceMinMv ∧
    boundary.advertisedMaxMv = query.sourceMaxMv ∧
    boundary.sourceMinMv = query.operationalSourceMinMv ∧
    boundary.sourceMaxMv = query.operationalSourceMaxMv ∧
    boundary.sourceMaxMa.toNat = query.sourceMaxMa ∧
    boundary.sourcePowerLimitMw = query.sourcePowerLimitMw

variable (point : BoundaryPoint)

/-- The current of the point is what the power of the source leaves at its voltage. -/
def terminalCurrentMatches : Bool :=
  terminalTrackingCurrentMa boundary.sourcePowerLimitMw point.trackingRequestMv =
    some point.requestCurrentMa

/-- The highest equilibrium current that is within a current below 3 A. -/
def currentClass (currentMa : ℕ) : Option UInt16 :=
  if currentMa < 3000 then
    ((boundary.recorded.filter fun point =>
      ¬ point.trackingOnly ∧ point.requestCurrentMa.toNat ≤ currentMa).map
        BoundaryPoint.requestCurrentMa).max?
  else none

def inClass (currentMa : ℕ) (point : BoundaryPoint) : Bool :=
  if 3000 ≤ currentMa then
    point.trackingOnly ∧ point.requestCurrentMa.toNat ≤ currentMa ∧
      (point.requestCurrentMa = 3000 ∨ boundary.terminalCurrentMatches point)
  else
    (¬ point.trackingOnly ∧ some point.requestCurrentMa = boundary.currentClass currentMa) ∨
      (point.trackingOnly ∧ point.requestCurrentMa.toNat = currentMa ∧
        boundary.terminalCurrentMatches point)

def terminalPoint : Bool :=
  point.trackingOnly ∧ point.requestCurrentMa < 3000 ∧ boundary.terminalCurrentMatches point

/-- The request in force is more than a step below the terminal point. -/
def promotionRequiresMargin : Bool :=
  boundary.terminalPoint point ∧
    query.currentRequestMv.all fun mv =>
      mv < point.trackingRequestMv.toNat - terminalHandoffRequestStepMv

def liveRtdReached : Bool := query.currentRtdMv.any fun mv => point.rtdMv ≤ mv

variable (pointTemperature : ℤ)

def withinTemperatureGap : Bool :=
  ¬ boundary.promotionRequiresMargin query point ∧
    0 ≤ query.temperatureCentiC - pointTemperature ∧
    query.temperatureCentiC - pointTemperature ≤ maxObservedLookupGapCentiC

/-- A terminal point may be used from below. -/
def terminalHandoffAllowed : Bool :=
  let gap := pointTemperature - query.temperatureCentiC
  boundary.terminalPoint point ∧
    if boundary.promotionRequiresMargin query point then
      1 ≤ gap ∧ gap ≤ maxTerminalPreHandoffGapCentiC
    else 0 ≤ gap ∧ gap ≤ maxObservedLookupGapCentiC

/-- The point that is requested outlasts a small dip. -/
def confirmedRequestHandoffAllowed : Bool :=
  let gap := pointTemperature - query.temperatureCentiC
  point.trackingOnly ∧ query.currentRequestMv = some point.trackingRequestMv.toNat ∧
    0 ≤ gap ∧ gap ≤ maxConfirmedRequestHandoffGapCentiC

def reaches : Bool :=
  liveRtdReached query point || boundary.withinTemperatureGap query point pointTemperature ||
    boundary.terminalHandoffAllowed query point pointTemperature ||
    confirmedRequestHandoffAllowed query point pointTemperature

def eligiblePoints : List (BoundaryPoint × ℤ) :=
  (boundary.recorded.filter (boundary.inClass query.currentMa)).filterMap fun point =>
    (projectTemperature point.rtdMv).bind fun pointTemperature =>
      if boundary.reaches query point pointTemperature then some (point, pointTemperature)
      else none

/-- Temperatures first, and then requests. -/
instance instPreorderHotness : Preorder (ℤ ×ₗ ℕ) :=
  (@Prod.Lex.instLinearOrder ℤ ℕ Int.instLinearOrder Nat.instLinearOrder).toPreorder

/-- The order in which the ceiling is the last and the cold start the first. -/
def hotness (temperature : ℤ) : ℤ ×ₗ ℕ := toLex (temperature, point.trackingRequestMv.toNat)

def safePoint : Option BoundaryPoint :=
  if ¬ boundary.identifies query ∨ ¬ boundary.hasMinimumCoverage projectTemperature then none
  else
    ((boundary.eligiblePoints query projectTemperature).argmax fun entry =>
      hotness entry.1 entry.2).map Prod.fst

def isThreeAmpTracking : Bool := point.requestCurrentMa = 3000 ∧ point.trackingOnly

def projectedTrackingPoints (current : UInt16) : List (BoundaryPoint × ℤ) :=
  (boundary.recorded.filter fun point =>
    point.requestCurrentMa = current ∧ point.trackingOnly).filterMap fun point =>
      (projectTemperature point.rtdMv).map fun temperature => (point, temperature)

def coldStartPoint : Option BoundaryPoint :=
  let threeAmp := (boundary.recorded.filter isThreeAmpTracking).map BoundaryPoint.requestCurrentMa
  threeAmp.max?.bind fun current =>
    if 3000 ≤ query.currentMa ∧ current < 3000 then none
    else
      ((boundary.projectedTrackingPoints projectTemperature current).argmin fun entry =>
        hotness entry.1 entry.2).bind fun coldest =>
          if query.temperatureCentiC < coldest.2 then some coldest.1 else none

def safePointOrColdStart : Option BoundaryPoint :=
  (boundary.safePoint query projectTemperature).or
    (if ¬ boundary.hasMinimumCoverage projectTemperature then none
     else if ¬ boundary.identifies query then none
     else boundary.coldStartPoint query projectTemperature)

def safeRequestMvOrColdStart : Option ℕ :=
  (boundary.safePointOrColdStart query projectTemperature).map fun point =>
    max point.trackingRequestMv.toNat query.sourceMinMv.toNat

/-! ## Ceilings -/

/-- A boundary that may be used for the lookup. -/
def Applies : Prop :=
  boundary.identifies query = true ∧ boundary.hasMinimumCoverage projectTemperature = true

/-- A recorded point of the right current that the plate has reached. -/
structure Eligible (point : BoundaryPoint) (temperature : ℤ) : Prop where
  recorded : point ∈ boundary.recorded
  inClass : boundary.inClass query.currentMa point = true
  projected : projectTemperature point.rtdMv = some temperature
  reached : boundary.reaches query point temperature = true

/-- No eligible point is hotter, nor as hot with a higher request. -/
def IsCeiling : Prop :=
  ∃ temperature, boundary.Eligible query projectTemperature point temperature ∧
    ∀ other otherTemperature,
      boundary.Eligible query projectTemperature other otherTemperature →
        hotness other otherTemperature ≤ hotness point temperature

/-- A 3 A tracking point that is observed, with its temperature. -/
structure TrackingAt (point : BoundaryPoint) (temperature : ℤ) : Prop where
  recorded : point ∈ boundary.recorded
  threeAmp : isThreeAmpTracking point = true
  projected : projectTemperature point.rtdMv = some temperature

/-- The plate is colder than the coldest 3 A tracking point. -/
def IsColdStart : Prop :=
  ∃ temperature, boundary.TrackingAt projectTemperature point temperature ∧
    (∀ other otherTemperature, boundary.TrackingAt projectTemperature other otherTemperature →
      hotness point temperature ≤ hotness other otherTemperature) ∧
    query.temperatureCentiC < temperature

variable {boundary query projectTemperature}

theorem mem_eligiblePoints {point : BoundaryPoint} {temperature : ℤ} :
    (point, temperature) ∈ boundary.eligiblePoints query projectTemperature ↔
      boundary.Eligible query projectTemperature point temperature := by
  unfold eligiblePoints
  rw [List.mem_filterMap]
  constructor
  · rintro ⟨other, hmem, hfound⟩
    obtain ⟨hrecorded, hclass⟩ := List.mem_filter.mp hmem
    obtain ⟨otherTemperature, hprojected, hreached⟩ := Option.bind_eq_some_iff.mp hfound
    split at hreached
    · rename_i hreaches
      obtain ⟨rfl, rfl⟩ := Prod.mk.inj (Option.some.inj hreached)
      exact ⟨hrecorded, hclass, hprojected, hreaches⟩
    · cases hreached
  · intro h
    refine ⟨point, List.mem_filter.mpr ⟨h.recorded, h.inClass⟩, ?_⟩
    rw [h.projected, Option.bind_some, if_pos h.reached]

theorem safePoint_of_not_applies (h : ¬boundary.Applies query projectTemperature) :
    boundary.safePoint query projectTemperature = none := by
  unfold safePoint
  rw [if_pos]
  by_contra hnot
  rw [not_or, not_not, not_not] at hnot
  exact h hnot

theorem safePoint_of_applies (h : boundary.Applies query projectTemperature) :
    boundary.safePoint query projectTemperature =
      ((boundary.eligiblePoints query projectTemperature).argmax fun entry =>
        hotness entry.1 entry.2).map Prod.fst := by
  unfold safePoint
  rw [if_neg]
  rw [not_or, not_not, not_not]
  exact h

theorem isCeiling_of_safePoint {point : BoundaryPoint}
    (h : boundary.safePoint query projectTemperature = some point) :
    boundary.Applies query projectTemperature ∧
      boundary.IsCeiling query projectTemperature point := by
  by_cases happlies : boundary.Applies query projectTemperature
  · rw [safePoint_of_applies happlies] at h
    obtain ⟨entry, hentry, rfl⟩ := Option.map_eq_some_iff.mp h
    refine ⟨happlies, entry.2, mem_eligiblePoints.mp (List.argmax_mem hentry), ?_⟩
    intro other otherTemperature hother
    exact List.le_of_mem_argmax (mem_eligiblePoints.mpr hother) hentry
  · rw [safePoint_of_not_applies happlies] at h
    cases h

theorem not_eligible_of_safePoint (happlies : boundary.Applies query projectTemperature)
    (h : boundary.safePoint query projectTemperature = none) (point : BoundaryPoint)
    (temperature : ℤ) : ¬boundary.Eligible query projectTemperature point temperature := by
  intro heligible
  rw [safePoint_of_applies happlies, Option.map_eq_none_iff, List.argmax_eq_none] at h
  have hmem := mem_eligiblePoints.mpr heligible
  rw [h] at hmem
  cases hmem

/-! ## All ceilings are alike -/

theorem isValid_of_applies (h : boundary.Applies query projectTemperature) : boundary.IsValid := by
  have hidentifies := h.1
  unfold identifies at hidentifies
  exact (of_decide_eq_true hidentifies).1

theorem pointValid (hvalid : boundary.IsValid) {point : BoundaryPoint}
    (hpoint : point ∈ boundary.recorded) : boundary.PointValid point :=
  hvalid.points point hpoint

/-- An equilibrium point was observed within the range of the scan. -/
theorem trackingRequestMv_le_of_not_trackingOnly {point : BoundaryPoint}
    (hpoint : boundary.PointValid point) (h : point.trackingOnly = false) :
    point.trackingRequestMv ≤ boundary.sourceMaxMv := by
  rcases hpoint.voltage with hterminal | ⟨_, _, hle⟩
  · have htracking := hterminal.1
    rw [h] at htracking
    cases htracking
  · exact hle

/-- A tracking point at another current than 3 A lies above the range of the scan. -/
theorem terminalTracking_of_trackingOnly {point : BoundaryPoint}
    (hpoint : boundary.PointValid point) (h : point.trackingOnly = true)
    (hcurrent : point.requestCurrentMa ≠ 3000) : boundary.TerminalTracking point := by
  rcases hpoint.trackingCurrent with hfalse | hthree | hterminal
  · rw [h] at hfalse
    cases hfalse
  · exact absurd hthree hcurrent
  · exact hterminal

/-- A 3 A tracking point above the range of the scan has the current that the power of the
source leaves there. -/
theorem terminalTracking_of_lt {point : BoundaryPoint} (hpoint : boundary.PointValid point)
    (h : boundary.sourceMaxMv < point.trackingRequestMv) : boundary.TerminalTracking point := by
  rcases hpoint.voltage with hterminal | ⟨_, _, hle⟩
  · exact hterminal
  · exact absurd hle (UInt16.not_le.mpr h)

/-- Tracking points with the same request have the same current. -/
theorem requestCurrentMa_eq_of_trackingOnly {point other : BoundaryPoint}
    (hpoint : boundary.PointValid point) (hother : boundary.PointValid other)
    (htracking : point.trackingOnly = true) (htrackingOther : other.trackingOnly = true)
    (hrequest : point.trackingRequestMv = other.trackingRequestMv) :
    point.requestCurrentMa = other.requestCurrentMa := by
  by_cases hthree : point.requestCurrentMa = 3000 ∧ other.requestCurrentMa = 3000
  · rw [hthree.1, hthree.2]
  · -- one of them is terminal, and its request is above the scan for both
    have habove : boundary.sourceMaxMv < point.trackingRequestMv := by
      rcases not_and_or.mp hthree with hne | hne
      · exact (terminalTracking_of_trackingOnly hpoint htracking hne).2.1
      · rw [hrequest]
        exact (terminalTracking_of_trackingOnly hother htrackingOther hne).2.1
    have hleft := (terminalTracking_of_lt hpoint habove).2.2.2
    have hright := (terminalTracking_of_lt hother (hrequest ▸ habove)).2.2.2
    rw [hrequest, hright] at hleft
    exact (Option.some.inj hleft).symm

/-- A tracking point below 3 A of a class lies above the range of the scan. -/
theorem lt_trackingRequestMv_of_inClass {currentMa : ℕ} (hcurrent : currentMa < 3000)
    {point : BoundaryPoint} (hpoint : boundary.PointValid point)
    (htracking : point.trackingOnly = true) (hclass : boundary.inClass currentMa point = true) :
    boundary.sourceMaxMv < point.trackingRequestMv := by
  unfold inClass at hclass
  rw [if_neg (by omega)] at hclass
  rcases of_decide_eq_true hclass with ⟨hnot, _⟩ | ⟨_, heq, _⟩
  · exact absurd htracking hnot
  · refine (terminalTracking_of_trackingOnly hpoint htracking ?_).2.1
    intro hthree
    rw [hthree] at heq
    have hvalue : (3000 : UInt16).toNat = 3000 := rfl
    omega

/-- The points of one class with the same request have the same current. -/
theorem requestCurrentMa_eq_of_inClass {currentMa : ℕ} {point other : BoundaryPoint}
    (hpoint : boundary.PointValid point) (hother : boundary.PointValid other)
    (hclass : boundary.inClass currentMa point = true)
    (hclassOther : boundary.inClass currentMa other = true)
    (hrequest : point.trackingRequestMv = other.trackingRequestMv) :
    point.requestCurrentMa = other.requestCurrentMa := by
  by_cases hcurrent : 3000 ≤ currentMa
  · unfold inClass at hclass hclassOther
    rw [if_pos hcurrent] at hclass hclassOther
    exact requestCurrentMa_eq_of_trackingOnly hpoint hother (of_decide_eq_true hclass).1
      (of_decide_eq_true hclassOther).1 hrequest
  · have hlt : currentMa < 3000 := by omega
    cases htracking : point.trackingOnly <;> cases htrackingOther : other.trackingOnly
    case false.false =>
      unfold inClass at hclass hclassOther
      rw [if_neg hcurrent] at hclass hclassOther
      have hleft := of_decide_eq_true hclass
      have hright := of_decide_eq_true hclassOther
      rw [htracking] at hleft
      rw [htrackingOther] at hright
      have hsame : some point.requestCurrentMa = some other.requestCurrentMa := by
        rcases hleft with ⟨_, hleft⟩ | ⟨hfalse, _⟩
        · rcases hright with ⟨_, hright⟩ | ⟨hfalse, _⟩
          · exact hleft.trans hright.symm
          · cases hfalse
        · cases hfalse
      exact Option.some.inj hsame
    case false.true =>
      have hle := trackingRequestMv_le_of_not_trackingOnly hpoint htracking
      have habove := lt_trackingRequestMv_of_inClass hlt hother htrackingOther hclassOther
      rw [hrequest] at hle
      exact absurd hle (UInt16.not_le.mpr habove)
    case true.false =>
      have hle := trackingRequestMv_le_of_not_trackingOnly hother htrackingOther
      have habove := lt_trackingRequestMv_of_inClass hlt hpoint htracking hclass
      rw [hrequest] at habove
      exact absurd hle (UInt16.not_le.mpr habove)
    case true.true =>
      exact requestCurrentMa_eq_of_trackingOnly hpoint hother htracking htrackingOther hrequest

theorem trackingRequestMv_eq_of_hotness {point other : BoundaryPoint}
    {temperature otherTemperature : ℤ}
    (h : hotness point temperature = hotness other otherTemperature) :
    point.trackingRequestMv = other.trackingRequestMv ∧ temperature = otherTemperature := by
  obtain ⟨htemperature, hrequest⟩ := Prod.mk.inj (toLex.injective h)
  exact ⟨UInt16.toNat_inj.mp hrequest, htemperature⟩

theorem IsCeiling.unique (hvalid : boundary.IsValid) {point other : BoundaryPoint}
    (hpoint : boundary.IsCeiling query projectTemperature point)
    (hother : boundary.IsCeiling query projectTemperature other) :
    point.trackingRequestMv = other.trackingRequestMv ∧
      point.requestCurrentMa = other.requestCurrentMa := by
  obtain ⟨temperature, heligible, hmax⟩ := hpoint
  obtain ⟨otherTemperature, heligibleOther, hmaxOther⟩ := hother
  have hsame : hotness point temperature = hotness other otherTemperature :=
    le_antisymm (hmaxOther _ _ heligible) (hmax _ _ heligibleOther)
  obtain ⟨hrequest, _⟩ := trackingRequestMv_eq_of_hotness hsame
  exact ⟨hrequest, requestCurrentMa_eq_of_inClass (pointValid hvalid heligible.recorded)
    (pointValid hvalid heligibleOther.recorded) heligible.inClass heligibleOther.inClass
    hrequest⟩

/-! ## The cold start -/

theorem mem_projectedTrackingPoints {point : BoundaryPoint} {temperature : ℤ} :
    (point, temperature) ∈ boundary.projectedTrackingPoints projectTemperature 3000 ↔
      boundary.TrackingAt projectTemperature point temperature := by
  unfold projectedTrackingPoints
  rw [List.mem_filterMap]
  constructor
  · rintro ⟨other, hmem, hfound⟩
    obtain ⟨hrecorded, hthree⟩ := List.mem_filter.mp hmem
    obtain ⟨otherTemperature, hprojected, hpair⟩ := Option.map_eq_some_iff.mp hfound
    obtain ⟨rfl, rfl⟩ := Prod.mk.inj hpair
    exact ⟨hrecorded, hthree, hprojected⟩
  · intro h
    refine ⟨point, List.mem_filter.mpr ⟨h.recorded, h.threeAmp⟩, ?_⟩
    rw [h.projected, Option.map_some]

instance : Std.MaxEqOr UInt16 where
  max_eq_or a b := by
    rw [show max a b = if a ≤ b then b else a from rfl]
    split_ifs
    · exact .inr rfl
    · exact .inl rfl

theorem mem_threeAmp {current : UInt16}
    (h : current ∈ (boundary.recorded.filter isThreeAmpTracking).map
      BoundaryPoint.requestCurrentMa) : current = 3000 := by
  obtain ⟨point, hmem, rfl⟩ := List.mem_map.mp h
  have hthree := (List.mem_filter.mp hmem).2
  unfold isThreeAmpTracking at hthree
  exact (of_decide_eq_true hthree).1

theorem isColdStart_of_coldStartPoint {point : BoundaryPoint}
    (h : boundary.coldStartPoint query projectTemperature = some point) :
    boundary.IsColdStart query projectTemperature point := by
  unfold coldStartPoint at h
  obtain ⟨current, hcurrent, hfound⟩ := Option.bind_eq_some_iff.mp h
  obtain rfl : current = 3000 := mem_threeAmp (List.max?_mem hcurrent)
  split at hfound
  · cases hfound
  · obtain ⟨coldest, hcoldest, hcold⟩ := Option.bind_eq_some_iff.mp hfound
    split at hcold
    · rename_i hlt
      obtain rfl := Option.some.inj hcold
      refine ⟨coldest.2, mem_projectedTrackingPoints.mp (List.argmin_mem hcoldest), ?_, hlt⟩
      intro other otherTemperature hother
      exact List.le_of_mem_argmin (mem_projectedTrackingPoints.mpr hother) hcoldest
    · cases hcold

theorem coldStartPoint_of_isColdStart {point : BoundaryPoint}
    (h : boundary.IsColdStart query projectTemperature point) :
    ∃ other, boundary.coldStartPoint query projectTemperature = some other ∧
      other.trackingRequestMv = point.trackingRequestMv := by
  obtain ⟨temperature, hpoint, hmin, hcold⟩ := h
  have hmemThree : point.requestCurrentMa ∈
      (boundary.recorded.filter isThreeAmpTracking).map BoundaryPoint.requestCurrentMa :=
    List.mem_map.mpr ⟨point, List.mem_filter.mpr ⟨hpoint.recorded, hpoint.threeAmp⟩, rfl⟩
  obtain ⟨current, hcurrent⟩ := Option.isSome_iff_exists.mp
    (List.isSome_max?_of_mem hmemThree)
  obtain rfl : current = 3000 := mem_threeAmp (List.max?_mem hcurrent)
  have hmem := mem_projectedTrackingPoints.mpr hpoint
  cases hcoldest : (boundary.projectedTrackingPoints projectTemperature 3000).argmin
      fun entry => hotness entry.1 entry.2 with
  | none =>
    rw [List.argmin_eq_none] at hcoldest
    rw [hcoldest] at hmem
    cases hmem
  | some coldest =>
    have hother := mem_projectedTrackingPoints.mp (List.argmin_mem hcoldest)
    have hsame : hotness coldest.1 coldest.2 = hotness point temperature :=
      le_antisymm (List.le_of_mem_argmin hmem hcoldest) (hmin _ _ hother)
    obtain ⟨hrequest, htemperature⟩ := trackingRequestMv_eq_of_hotness hsame
    refine ⟨coldest.1, ?_, hrequest⟩
    unfold coldStartPoint
    dsimp only
    rw [hcurrent, Option.bind_some, if_neg (by simp), hcoldest, Option.bind_some, if_pos]
    rw [htemperature]
    exact hcold

theorem safeRequestMvOrColdStart_of_not_applies (h : ¬boundary.Applies query projectTemperature) :
    boundary.safeRequestMvOrColdStart query projectTemperature = none := by
  unfold safeRequestMvOrColdStart safePointOrColdStart
  rw [safePoint_of_not_applies h, Option.none_or]
  split_ifs with hcoverage hidentifies
  · exact absurd ⟨hidentifies, hcoverage⟩ h
  · rfl
  · rfl

theorem safeRequestMvOrColdStart_of_applies (h : boundary.Applies query projectTemperature)
    (hnone : boundary.safePoint query projectTemperature = none) :
    boundary.safeRequestMvOrColdStart query projectTemperature =
      (boundary.coldStartPoint query projectTemperature).map fun point =>
        max point.trackingRequestMv.toNat query.sourceMinMv.toNat := by
  unfold safeRequestMvOrColdStart safePointOrColdStart
  rw [hnone, Option.none_or, if_neg (not_not.mpr h.2), if_neg (not_not.mpr h.1)]

end SupplyBoundary

end FluxPurr.Supply
