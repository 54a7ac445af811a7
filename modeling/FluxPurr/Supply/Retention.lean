import FluxPurr.Supply.Scan

/-!
# What a supply scan retains

The scan writes an observation in the place of an earlier one, or in the next free place,
and it drops the tracking observations before it writes them again.  None of this changes
the header (`SameHeader`), and a point is judged by the header alone, so the points that
may be stored stay so (`Records`).  What the samples themselves are is a parameter:
`Observed` is any property of the readings.
-/

namespace FluxPurr.Supply

/-- The part of a point that the sample contributes. -/
structure Reading where
  elapsedMs : UInt32
  rtdCode : UInt16
  rtdMv : UInt16
  vinCode : UInt16
  vinMv : UInt16

def BoundaryPoint.reading (point : BoundaryPoint) : Reading where
  elapsedMs := point.elapsedMs
  rtdCode := point.rtdCode
  rtdMv := point.rtdMv
  vinCode := point.vinCode
  vinMv := point.vinMv

def ScanInput.reading (input : ScanInput) : Reading where
  elapsedMs := input.nowMs
  rtdCode := input.rtdCode
  rtdMv := input.rtdMv
  vinCode := input.vinCode
  vinMv := input.vinMv

namespace SupplyBoundary

/-- A point at an operational request: the voltage in the range of the source, the current
in a step of 100 mA, the flat response above the tracking one. -/
structure OperationalPoint (boundary : SupplyBoundary) (point : BoundaryPoint) : Prop where
  currentLeast : 2000 ≤ point.requestCurrentMa.toNat
  currentMost : point.requestCurrentMa.toNat ≤ 3000
  currentStep : point.requestCurrentMa.toNat % 100 = 0
  least : boundary.sourceMinMv.toNat ≤ point.trackingRequestMv.toNat
  most : point.trackingRequestMv.toNat ≤ boundary.sourceMaxMv.toNat
  step : point.trackingRequestMv.toNat % 100 = 0
  flat : point.flatRequestMv.toNat = 0 ∨
    point.trackingRequestMv.toNat < point.flatRequestMv.toNat ∧
      point.flatRequestMv.toNat ≤ boundary.sourceMaxMv.toNat
  trackingCurrent : point.trackingOnly = true → point.requestCurrentMa = 3000

/-- The observation of a terminal probe. -/
structure TerminalPoint (boundary : SupplyBoundary) (point : BoundaryPoint) : Prop where
  terminal : boundary.TerminalTracking point
  step : point.trackingRequestMv.toNat % 100 = 0
  flat : point.flatRequestMv = 0

def RetainedPoint (boundary : SupplyBoundary) (point : BoundaryPoint) : Prop :=
  boundary.OperationalPoint point ∨ boundary.TerminalPoint point

variable {boundary : SupplyBoundary} {point : BoundaryPoint}

theorem RetainedPoint.step (h : boundary.RetainedPoint point) :
    point.trackingRequestMv.toNat % 100 = 0 := by
  rcases h with h | h
  · exact h.step
  · exact h.step

theorem OperationalPoint.withFlat (h : boundary.OperationalPoint point) {flatRequestMv : ℕ}
    (habove : point.trackingRequestMv.toNat < flatRequestMv)
    (hmost : flatRequestMv ≤ boundary.sourceMaxMv.toNat) :
    boundary.OperationalPoint { point with flatRequestMv := flatRequestMv.toUInt16 } := by
  have hsmall : flatRequestMv < UInt16.size := lt_of_le_of_lt hmost (UInt16.toNat_lt_size _)
  have hflat : flatRequestMv.toUInt16.toNat = flatRequestMv := UInt16.toNat_ofNat_of_lt' hsmall
  exact { h with flat := .inr ⟨by rw [hflat]; exact habove, by rw [hflat]; exact hmost⟩ }

/-! ### Retaining changes nothing but the places -/

/-- The same source: only the points and the cutoff flag differ. -/
def SameHeader (boundary other : SupplyBoundary) : Prop :=
  ∃ cutoffReached points pointCount, other =
    { boundary with
      cutoffReached := cutoffReached
      points := points
      pointCount := pointCount }

theorem SameHeader.refl (boundary : SupplyBoundary) : boundary.SameHeader boundary :=
  ⟨boundary.cutoffReached, boundary.points, boundary.pointCount, rfl⟩

theorem SameHeader.trans {other third : SupplyBoundary} (h : boundary.SameHeader other)
    (h' : other.SameHeader third) : boundary.SameHeader third := by
  obtain ⟨_, _, _, rfl⟩ := h
  obtain ⟨cutoffReached, points, pointCount, rfl⟩ := h'
  exact ⟨cutoffReached, points, pointCount, rfl⟩

section SameHeader

variable {other : SupplyBoundary} (h : boundary.SameHeader other)
include h

theorem SameHeader.sourceMinMv : other.sourceMinMv = boundary.sourceMinMv := by
  obtain ⟨_, _, _, rfl⟩ := h
  rfl

theorem SameHeader.sourceMaxMv : other.sourceMaxMv = boundary.sourceMaxMv := by
  obtain ⟨_, _, _, rfl⟩ := h
  rfl

theorem SameHeader.advertisedMaxMv : other.advertisedMaxMv = boundary.advertisedMaxMv := by
  obtain ⟨_, _, _, rfl⟩ := h
  rfl

theorem SameHeader.sourcePowerLimitMw : other.sourcePowerLimitMw = boundary.sourcePowerLimitMw := by
  obtain ⟨_, _, _, rfl⟩ := h
  rfl

end SameHeader

theorem sameHeader_retain (boundary : SupplyBoundary) (point : BoundaryPoint) :
    boundary.SameHeader (boundary.retain point).2 := by
  unfold retain
  split
  · exact ⟨boundary.cutoffReached, _, boundary.pointCount, rfl⟩
  · split
    · exact ⟨boundary.cutoffReached, _, _, rfl⟩
    · exact .refl boundary

theorem sameHeader_keepEquilibria (boundary : SupplyBoundary) :
    boundary.SameHeader boundary.keepEquilibria :=
  ⟨boundary.cutoffReached, _, _, rfl⟩

/-! A point is judged by the header alone. -/

variable {other : SupplyBoundary}

theorem OperationalPoint.of_sameHeader
    (hpoint : boundary.OperationalPoint point) (h : boundary.SameHeader other) :
    other.OperationalPoint point := by
  obtain ⟨_, _, _, rfl⟩ := h
  exact { hpoint with }

theorem TerminalPoint.of_sameHeader
    (hpoint : boundary.TerminalPoint point) (h : boundary.SameHeader other) :
    other.TerminalPoint point := by
  obtain ⟨_, _, _, rfl⟩ := h
  exact { hpoint with }

theorem RetainedPoint.of_sameHeader
    (hpoint : boundary.RetainedPoint point) (h : boundary.SameHeader other) :
    other.RetainedPoint point := by
  rcases hpoint with hpoint | hpoint
  · exact .inl (hpoint.of_sameHeader h)
  · exact .inr (hpoint.of_sameHeader h)

theorem pointCount_succ (h : boundary.pointCount.toNat < maxBoundaryPoints) :
    (boundary.pointCount + 1).toNat = boundary.pointCount.toNat + 1 := by
  have hlt : boundary.pointCount.toNat < 41 := h
  rw [UInt8.toNat_add]
  exact Nat.mod_eq_of_lt (by show boundary.pointCount.toNat + 1 < 256; omega)

theorem pointCount_retain_le (h : boundary.pointCount.toNat ≤ maxBoundaryPoints) :
    (boundary.retain point).2.pointCount.toNat ≤ maxBoundaryPoints := by
  unfold retain
  split
  · exact h
  · split
    case isTrue hlt =>
      show (boundary.pointCount + 1).toNat ≤ maxBoundaryPoints
      rw [pointCount_succ hlt]
      exact hlt
    case isFalse => exact h

theorem mem_recorded_retain {other : BoundaryPoint}
    (h : other ∈ (boundary.retain point).2.recorded) :
    other = point ∨ other ∈ boundary.recorded := by
  unfold retain at h
  split at h
  · -- the point takes the place of an earlier one
    simp only [recorded, Vector.toList_setIfInBounds, List.take_set] at h
    exact (List.mem_or_eq_of_mem_set h).symm
  · split at h
    case isTrue hlt =>
      simp only [recorded, Vector.toList_setIfInBounds, pointCount_succ hlt, List.take_add_one,
        List.take_set_of_le le_rfl, List.mem_append] at h
      rcases h with h | h
      · exact .inr h
      · have hlast : boundary.pointCount.toNat < boundary.points.toList.length := by
          rw [Vector.length_toList]; exact hlt
        rw [List.getElem?_set_self hlast] at h
        exact .inl (by simpa using h)
    case isFalse => exact .inr h

theorem length_recorded_le (boundary : SupplyBoundary) :
    boundary.recorded.length ≤ maxBoundaryPoints := by
  have hlength : boundary.points.toList.length = maxBoundaryPoints := Vector.length_toList
  rw [recorded, List.length_take, hlength]
  exact Nat.min_le_right _ _

/-- The thermal observations among the points. -/
def equilibria (boundary : SupplyBoundary) : List BoundaryPoint :=
  boundary.recorded.filter fun point => !point.trackingOnly

theorem length_equilibria_le (boundary : SupplyBoundary) :
    boundary.equilibria.length ≤ maxBoundaryPoints :=
  (List.length_filter_le _ _).trans boundary.length_recorded_le

theorem pointCount_keepEquilibria (boundary : SupplyBoundary) :
    boundary.keepEquilibria.pointCount.toNat = boundary.equilibria.length := by
  have hsize : boundary.equilibria.length < UInt8.size :=
    lt_of_le_of_lt boundary.length_equilibria_le (by decide)
  have hcount : boundary.keepEquilibria.pointCount = UInt8.ofNat boundary.equilibria.length := rfl
  rw [hcount, UInt8.toNat_ofNat_of_lt' hsize]

theorem getElem?_keepEquilibria {index : ℕ} (h : index < boundary.equilibria.length) :
    boundary.keepEquilibria.points.toList[index]? = some boundary.equilibria[index] := by
  have hindex : index < maxBoundaryPoints := h.trans_le boundary.length_equilibria_le
  have hpoints : boundary.keepEquilibria.points = Vector.ofFn fun index : Fin maxBoundaryPoints =>
      boundary.equilibria.getD index boundary.points[index] := rfl
  rw [hpoints, Vector.toList_ofFn, List.getElem?_ofFn, dif_pos hindex, List.getD_eq_getElem _ _ h]

theorem recorded_keepEquilibria (boundary : SupplyBoundary) :
    boundary.keepEquilibria.recorded = boundary.equilibria := by
  apply List.ext_getElem?
  intro index
  rw [recorded, pointCount_keepEquilibria, List.getElem?_take]
  split
  case isTrue h => rw [getElem?_keepEquilibria h, List.getElem?_eq_getElem h]
  case isFalse h => rw [List.getElem?_eq_none (not_lt.mp h)]

theorem pointCount_keepEquilibria_le (boundary : SupplyBoundary) :
    boundary.keepEquilibria.pointCount.toNat ≤ maxBoundaryPoints := by
  rw [pointCount_keepEquilibria]
  exact boundary.length_equilibria_le

theorem mem_recorded_keepEquilibria (h : point ∈ boundary.keepEquilibria.recorded) :
    point ∈ boundary.recorded := by
  rw [recorded_keepEquilibria] at h
  exact List.mem_of_mem_filter h

/-! ### What is recorded -/

/-- Every recorded point may be stored, and was read from a sample with the property. -/
structure Records (Observed : Reading → Prop) (boundary : SupplyBoundary) : Prop where
  pointCount : boundary.pointCount.toNat ≤ maxBoundaryPoints
  retained : ∀ point ∈ boundary.recorded, boundary.RetainedPoint point ∧ Observed point.reading

variable {Observed : Reading → Prop}

theorem Records.retain (h : Records Observed boundary) (hpoint : boundary.RetainedPoint point)
    (hobserved : Observed point.reading) : Records Observed (boundary.retain point).2 := by
  refine ⟨pointCount_retain_le h.pointCount, ?_⟩
  intro other hother
  have hheader := boundary.sameHeader_retain point
  rcases mem_recorded_retain hother with rfl | hmem
  · exact ⟨hpoint.of_sameHeader hheader, hobserved⟩
  · obtain ⟨hretained, hobserved'⟩ := h.retained other hmem
    exact ⟨hretained.of_sameHeader hheader, hobserved'⟩

theorem Records.keepEquilibria (h : Records Observed boundary) :
    Records Observed boundary.keepEquilibria := by
  refine ⟨boundary.pointCount_keepEquilibria_le, ?_⟩
  intro other hother
  obtain ⟨hretained, hobserved⟩ := h.retained other (mem_recorded_keepEquilibria hother)
  exact ⟨hretained.of_sameHeader boundary.sameHeader_keepEquilibria, hobserved⟩

theorem Records.foldl_retain {points : List BoundaryPoint} (h : Records Observed boundary)
    (hpoints : ∀ point ∈ points, boundary.OperationalPoint point ∧ Observed point.reading) :
    let stored := points.foldl (fun boundary point => (boundary.retain point).2) boundary
    boundary.SameHeader stored ∧ Records Observed stored := by
  induction points generalizing boundary with
  | nil => exact ⟨.refl boundary, h⟩
  | cons point points ih =>
    obtain ⟨hpoint, hrest⟩ := List.forall_mem_cons.mp hpoints
    have hheader := boundary.sameHeader_retain point
    have hrecords := h.retain (.inl hpoint.1) hpoint.2
    obtain ⟨hstored, hrecords'⟩ := ih hrecords fun other hother =>
      ⟨(hrest other hother).1.of_sameHeader hheader, (hrest other hother).2⟩
    exact ⟨hheader.trans hstored, hrecords'⟩

end SupplyBoundary

end FluxPurr.Supply
