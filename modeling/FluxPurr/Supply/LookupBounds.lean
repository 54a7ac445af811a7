import FluxPurr.Supply.BoundaryLookup
import FluxPurr.Supply.ScanEnvelope

/-!
# What a lookup may return

A point that a lookup returns was recorded, asks for no more current than there is, and stays
within the power of the source.  A point that is not terminal is used above the temperature of
the plate in three cases only: its sensor voltage has been reached, it is requested already and
lies close by, or nothing was observed as cold as the plate (`withinObserved_of_lookup`).
-/

namespace FluxPurr.Supply

namespace SupplyBoundary

/-- The range of the scan is within the power of the source. -/
def WithinPower (boundary : SupplyBoundary) : Prop :=
  boundary.sourcePowerLimitMw ≠ 0 →
    boundary.sourceMaxMv.toNat * 3000 ≤ boundary.sourcePowerLimitMw.toNat * 1000

/-- The point may be used for the query. -/
structure WithinObserved (boundary : SupplyBoundary) (query : BoundaryQuery)
    (projectTemperature : UInt16 → Option ℤ) (point : BoundaryPoint) : Prop where
  recorded : point ∈ boundary.recorded
  current : boundary.safePoint query projectTemperature = some point →
    point.requestCurrentMa.toNat ≤ query.currentMa
  power : boundary.sourcePowerLimitMw ≠ 0 →
    point.trackingRequestMv.toNat * point.requestCurrentMa.toNat ≤
      boundary.sourcePowerLimitMw.toNat * 1000
  promoted : ∀ temperature, projectTemperature point.rtdMv = some temperature →
    query.temperatureCentiC < temperature → boundary.terminalPoint point = false →
      liveRtdReached query point = true ∨
        (query.currentRequestMv = some point.trackingRequestMv.toNat ∧
          temperature - query.temperatureCentiC ≤ maxConfirmedRequestHandoffGapCentiC) ∨
        boundary.IsColdStart query projectTemperature point

variable {boundary : SupplyBoundary} {query : BoundaryQuery}
  {projectTemperature : UInt16 → Option ℤ} {point : BoundaryPoint}

theorem le_of_currentClass {currentMa : ℕ} {current : UInt16}
    (h : boundary.currentClass currentMa = some current) : current.toNat ≤ currentMa := by
  unfold currentClass at h
  split_ifs at h
  obtain ⟨point, hmem, rfl⟩ := List.mem_map.mp (List.max?_mem h)
  exact (of_decide_eq_true (List.mem_filter.mp hmem).2).2

theorem requestCurrentMa_le_of_inClass {currentMa : ℕ}
    (h : boundary.inClass currentMa point = true) : point.requestCurrentMa.toNat ≤ currentMa := by
  unfold inClass at h
  split_ifs at h
  · exact (of_decide_eq_true h).2.1
  · rcases of_decide_eq_true h with ⟨-, hclass⟩ | ⟨-, hsame, -⟩
    · exact le_of_currentClass hclass.symm
    · exact hsame.le

theorem power_of_pointValid (hwithin : boundary.WithinPower)
    (hlimit : boundary.sourcePowerLimitMw ≠ 0) (h : boundary.PointValid point) :
    point.trackingRequestMv.toNat * point.requestCurrentMa.toNat ≤
      boundary.sourcePowerLimitMw.toNat * 1000 := by
  rcases h.voltage with hterminal | ⟨⟨⟨-, hcurrent⟩, -⟩, -, hrange⟩
  · have hpower := terminalTrackingCurrentMa_power hterminal.2.2.2
    calc point.trackingRequestMv.toNat * point.requestCurrentMa.toNat
        ≤ point.trackingRequestMv.toNat *
            (boundary.sourcePowerLimitMw.toNat * 1000 / point.trackingRequestMv.toNat) :=
          Nat.mul_le_mul_left _ (hpower.trans (Nat.div_mul_le_self _ _))
      _ ≤ boundary.sourcePowerLimitMw.toNat * 1000 := Nat.mul_div_le _ _
  · have hcurrent : point.requestCurrentMa.toNat ≤ 3000 := UInt16.le_iff_toNat_le.mp hcurrent
    calc point.trackingRequestMv.toNat * point.requestCurrentMa.toNat
        ≤ boundary.sourceMaxMv.toNat * 3000 :=
          Nat.mul_le_mul (UInt16.le_iff_toNat_le.mp hrange) hcurrent
      _ ≤ boundary.sourcePowerLimitMw.toNat * 1000 := hwithin hlimit

/-- A point that is not terminal is reached from below only by its sensor voltage, or while it
is requested. -/
theorem promoted_of_reaches {temperature : ℤ} (h : boundary.reaches query point temperature = true)
    (habove : query.temperatureCentiC < temperature)
    (hterminal : boundary.terminalPoint point = false) :
    liveRtdReached query point = true ∨
      query.currentRequestMv = some point.trackingRequestMv.toNat ∧
        temperature - query.temperatureCentiC ≤ maxConfirmedRequestHandoffGapCentiC := by
  unfold reaches at h
  simp only [Bool.or_eq_true] at h
  rcases h with ((hlive | hgap) | hhandoff) | hconfirmed
  · exact .inl hlive
  · have hbelow := (of_decide_eq_true hgap).2.1
    omega
  · have hpoint := (of_decide_eq_true hhandoff).1
    rw [hterminal] at hpoint
    cases hpoint
  · obtain ⟨-, hrequest, -, hnear⟩ := of_decide_eq_true hconfirmed
    exact .inr ⟨hrequest, hnear⟩

theorem recorded_of_lookup
    (h : boundary.safePointOrColdStart query projectTemperature = some point) :
    point ∈ boundary.recorded ∧ boundary.IsValid ∧
      ((∃ temperature, boundary.Eligible query projectTemperature point temperature) ∨
        boundary.IsColdStart query projectTemperature point) := by
  rcases Option.or_eq_some_iff.mp h with hsafe | ⟨-, hcold⟩
  · obtain ⟨happlies, temperature, heligible, -⟩ := isCeiling_of_safePoint hsafe
    exact ⟨heligible.recorded, isValid_of_applies happlies, .inl ⟨temperature, heligible⟩⟩
  · split_ifs at hcold with hcoverage hidentifies
    have hstart := isColdStart_of_coldStartPoint hcold
    have hrecorded : point ∈ boundary.recorded := by
      obtain ⟨temperature, htracking, -⟩ := hstart
      exact htracking.recorded
    exact ⟨hrecorded, isValid_of_applies ⟨hidentifies, hcoverage⟩, .inr hstart⟩

/-- What a lookup returns was observed. -/
theorem withinObserved_of_lookup (boundary : SupplyBoundary) (query : BoundaryQuery)
    (projectTemperature : UInt16 → Option ℤ) (point : BoundaryPoint)
    (hwithin : boundary.WithinPower)
    (h : boundary.safePointOrColdStart query projectTemperature = some point) :
    boundary.WithinObserved query projectTemperature point := by
  obtain ⟨hrecorded, hvalid, hreason⟩ := recorded_of_lookup h
  refine ⟨hrecorded, ?_, ?_, ?_⟩
  · intro hsafe
    obtain ⟨-, temperature, heligible, -⟩ := isCeiling_of_safePoint hsafe
    exact requestCurrentMa_le_of_inClass heligible.inClass
  · exact fun hlimit => power_of_pointValid hwithin hlimit (pointValid hvalid hrecorded)
  · intro temperature hprojected habove hterminal
    rcases hreason with ⟨other, heligible⟩ | hstart
    · obtain rfl := Option.some.inj (heligible.projected.symm.trans hprojected)
      rcases promoted_of_reaches heligible.reached habove hterminal with hlive | hrequested
      · exact .inl hlive
      · exact .inr (.inl hrequested)
    · exact .inr (.inr hstart)

/-- The points of a 60 W source with a terminal observation at 20 °C, and two at 3 A at 60 °C and
120 °C. -/
def coldTerminalBoundary : SupplyBoundary where
  adc := { dividerSupplyMv := 3300 }
  sourceMinMv := 5500
  sourceMaxMv := 18000
  sourceMaxMa := 3000
  sourcePowerLimitMw := 60000
  advertisedMinMv := 5000
  advertisedMaxMv := 21000
  pointCount := 3
  points := (((Vector.replicate maxBoundaryPoints {}).setIfInBounds 0
      { rtdMv := 1000, vinMv := 1200, requestCurrentMa := 2900, trackingRequestMv := 20500
        trackingOnly := true }).setIfInBounds 1
      { rtdMv := 1400, vinMv := 1200, requestCurrentMa := 3000, trackingRequestMv := 12000
        trackingOnly := true }).setIfInBounds 2
      { rtdMv := 2000, vinMv := 1200, requestCurrentMa := 3000, trackingRequestMv := 15000
        trackingOnly := true }

/-- Ten millivolts for one degree. -/
def linearTemperature (rtdMv : UInt16) : Option ℤ := some (10 * rtdMv.toNat - 8000)

/-- A plate at this temperature, with no sensor voltage and no request in force. -/
def coldQuery (temperatureCentiC : ℤ) : BoundaryQuery where
  temperatureCentiC := temperatureCentiC
  currentRtdMv := none
  currentRequestMv := none
  currentMa := 3000
  wifiStarted := false
  sourceMinMv := 5000
  sourceMaxMv := 21000
  operationalSourceMinMv := 5500
  operationalSourceMaxMv := 18000
  sourceMaxMa := 3000
  sourcePowerLimitMw := 60000

theorem withinObserved_cold :
    coldTerminalBoundary.WithinObserved (coldQuery 5000) linearTemperature
      { rtdMv := 1400, vinMv := 1200, requestCurrentMa := 3000, trackingRequestMv := 12000
        trackingOnly := true } :=
  withinObserved_of_lookup coldTerminalBoundary (coldQuery 5000) linearTemperature _
    (fun _ => by decide +kernel) (by decide +kernel)

/-- A cold start does not look at the terminal points. -/
theorem not_colder_than_all_tracking_points :
    ¬∀ (boundary : SupplyBoundary) (query : BoundaryQuery)
      (projectTemperature : UInt16 → Option ℤ) (point : BoundaryPoint) (temperature : ℤ),
      boundary.IsValid → boundary.WithinPower →
        boundary.safePointOrColdStart query projectTemperature = some point →
          point.requestCurrentMa = 3000 → projectTemperature point.rtdMv = some temperature →
            query.temperatureCentiC < temperature →
              liveRtdReached query point = true ∨
                (query.currentRequestMv = some point.trackingRequestMv.toNat ∧
                  temperature - query.temperatureCentiC ≤ maxConfirmedRequestHandoffGapCentiC) ∨
                ∀ other ∈ boundary.recorded, other.trackingOnly = true →
                  ∀ otherTemperature, projectTemperature other.rtdMv = some otherTemperature →
                    query.temperatureCentiC < otherTemperature := by
  intro h
  have hcolder := h coldTerminalBoundary (coldQuery 5000) linearTemperature
    { rtdMv := 1400, vinMv := 1200, requestCurrentMa := 3000, trackingRequestMv := 12000
      trackingOnly := true } 6000 (by decide +kernel) (fun _ => by decide +kernel)
    (by decide +kernel) rfl (by decide +kernel) (by decide)
  rcases hcolder with hlive | ⟨hrequest, -⟩ | hcolder
  · cases hlive
  · cases hrequest
  · have hterminal := hcolder
      { rtdMv := 1000, vinMv := 1200, requestCurrentMa := 2900, trackingRequestMv := 20500
        trackingOnly := true } (by decide +kernel) rfl 2000 (by decide +kernel)
    exact absurd hterminal (by decide)

end SupplyBoundary

end FluxPurr.Supply
