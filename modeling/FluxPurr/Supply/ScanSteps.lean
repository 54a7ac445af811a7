import FluxPurr.Supply.ScanInvariant

/-!
# The steps of the supply scan

One lemma for each function of the scan, in the order in which `advance` and `update` come
to them, each with the facts its phase has found; `Coherent.update` puts them together.
-/

namespace FluxPurr.Supply

namespace SupplyScan

open SupplyBoundary

variable {run : ScanRun} {scan : SupplyScan} {input : ScanInput}

/-! ## The sweep -/

section Sweep

variable (h : scan.Saved run) (hphase : scan.phase = .sweep)
  (hoperational : scan.Operational)
  (hprobe : scan.normalProbe = true → scan.mode = .detailed ∧ scan.requestMa = 3000)
include h hphase hoperational hprobe

theorem Saved.handleAmbiguousConfirmation (hflat : scan.flatRequestMv = 0)
    (htracked : ∀ point, scan.lastTracking = some point → scan.TrackedBelow point) :
    (scan.handleAmbiguousConfirmation input).Coherent run := by
  unfold SupplyScan.handleAmbiguousConfirmation
  split
  · refine Saved.beginEquilibrium { h with } hoperational (fun hnormal => (hprobe hnormal).1)
      (.inr ⟨hoperational.1.most, ?_⟩)
    intro point hpoint
    rcases htracked point hpoint with hlt | ⟨heq, hdetailed, habove, _⟩
    · exact .inl hlt
    · exact .inr ⟨heq, hdetailed, habove⟩
  · refine Saved.probeNextVoltage { h with } hphase hoperational hprobe hflat ?_
    intro point hpoint
    rcases htracked point hpoint with hlt | ⟨heq, _⟩
    · exact .inl hlt.le
    · exact .inl heq.le

theorem Saved.handleFlatConfirmation (hflat : scan.flatRequestMv = 0)
    (htracked : ∀ point, scan.lastTracking = some point →
      point.trackingRequestMv.toNat < scan.requestMv) :
    (scan.handleFlatConfirmation input).Coherent run := by
  unfold SupplyScan.handleFlatConfirmation
  split
  · exact Saved.probeNextVoltage { h with } hphase hoperational hprobe hflat fun point hpoint =>
      .inl (htracked point hpoint).le
  · -- the bracketed point is the last tracking one with the flat response above it
    have hbracketed : ∀ point, (scan.lastTracking.map fun point : BoundaryPoint =>
          { point with flatRequestMv := scan.requestMv.toUInt16 }) = some point →
        ∃ last, scan.lastTracking = some last ∧
          point = { last with flatRequestMv := scan.requestMv.toUInt16 } := by
      intro point hpoint
      obtain ⟨last, hlast, rfl⟩ := Option.map_eq_some_iff.mp hpoint
      exact ⟨last, hlast, rfl⟩
    have htracking : ∀ point, (scan.lastTracking.map fun point : BoundaryPoint =>
          { point with flatRequestMv := scan.requestMv.toUInt16 }) = some point →
        scan.boundary.OperationalPoint point ∧ run.Observed point.reading := by
      intro point hpoint
      obtain ⟨last, hlast, rfl⟩ := hbracketed point hpoint
      obtain ⟨hlastPoint, hobserved⟩ := h.tracking last hlast
      exact ⟨hlastPoint.withFlat (htracked last hlast) hoperational.1.most, hobserved⟩
    refine Saved.beginEquilibrium { h with tracking := htracking } hoperational
      (fun hnormal => (hprobe hnormal).1) (.inr ⟨hoperational.1.most, ?_⟩)
    intro point hpoint
    obtain ⟨last, hlast, rfl⟩ := hbracketed point hpoint
    exact .inl (htracked last hlast)

omit h hphase hoperational hprobe in
theorem two_le_flatConfirmations (scan : SupplyScan) : 2 ≤ scan.flatConfirmations := by
  unfold flatConfirmations
  split <;> decide

/-- A second flat response is never counted at the request that tracked last. -/
theorem Saved.continueSweep (hflat : scan.flatRequestMv = 0)
    (hle : ∀ point, scan.lastTracking = some point → point.trackingRequestMv.toNat ≤ scan.requestMv)
    (hlt : 2 ≤ scan.flatCount → ∀ point, scan.lastTracking = some point →
      point.trackingRequestMv.toNat < scan.requestMv) :
    (scan.continueSweep input).Coherent run := by
  unfold SupplyScan.continueSweep
  dsimp only
  split
  case isTrue hcount =>
    have htwo : 2 ≤ scan.flatCount := scan.two_le_flatConfirmations.trans hcount
    exact Saved.handleFlatConfirmation { h with } hphase hoperational hprobe hflat (hlt htwo)
  case isFalse =>
    exact Saved.probeNextVoltage { h with } hphase hoperational hprobe hflat fun point hpoint =>
      .inl (hle point hpoint)

end Sweep

/-! ## Falling back -/

theorem mem_of_strongest {points : List BoundaryPoint} {start : Option BoundaryPoint}
    {strongest : BoundaryPoint}
    (h : points.foldl (fun best point =>
      match best with
      | none => some point
      | some best => if best.trackingRequestMv ≤ point.trackingRequestMv then some point
          else some best) start = some strongest) :
    start = some strongest ∨ strongest ∈ points := by
  induction points generalizing start with
  | nil => exact .inl h
  | cons point points ih =>
    rw [List.foldl_cons] at h
    rcases ih h with hstart | hmem
    · split at hstart
      · exact .inr (by simp_all)
      · split at hstart
        · exact .inr (by simp_all)
        · exact .inl hstart
    · exact .inr (List.mem_cons_of_mem _ hmem)

variable {point : BoundaryPoint} {boundary : SupplyBoundary}

theorem Saved.lastSafePoint_step (h : scan.Saved run)
    (hpoint : scan.lastSafePoint = some point) : point.trackingRequestMv.toNat % 100 = 0 := by
  unfold lastSafePoint at hpoint
  rcases Option.or_eq_some_iff.mp hpoint with hlast | ⟨_, hrecorded⟩
  · exact (h.tracking point (Option.filter_eq_some_iff.mp hlast).1).1.step
  · rcases mem_of_strongest hrecorded with hnone | hmem
    · cases hnone
    · exact (h.records.retained point (List.mem_of_mem_filter hmem)).1.step

theorem Saved.inRange_boundaryReturnMv (h : scan.Saved run)
    (hvoltage : scan.InRange scan.requestMv) : scan.InRange scan.boundaryReturnMv := by
  obtain ⟨hleast, hmost, hstep⟩ := hvoltage
  have hfloor := h.floor.step
  have hrecovery : probeRecoveryStepMv = 500 := rfl
  unfold boundaryReturnMv
  dsimp only
  split
  case h_1 => refine ⟨?_, ?_, ?_⟩ <;> omega
  case h_2 point hpoint =>
    have hpointStep := h.lastSafePoint_step hpoint
    refine ⟨?_, ?_, ?_⟩ <;> omega

theorem noteRapidFailure_of_rapid (scan : SupplyScan) (input : ScanInput)
    (hmode : scan.mode = .rapid) :
    ∃ reached count hot, scan.noteRapidFailure input =
      { scan with
        rapidBoundaryReached := reached
        rapidFailedProbeCount := count
        rapidFailedProbeMv := some scan.requestMv
        hotBoundaryReached := hot } := by
  unfold noteRapidFailure
  rw [if_pos ((isRapid_iff scan).mpr hmode)]
  exact ⟨_, _, _, rfl⟩

/-- Only the rapid scan falls back to a lower request under load. -/
theorem Saved.beginSourceBoundaryRecovery (h : scan.Saved run)
    (hoperational : scan.Operational) (hmode : scan.mode = .rapid) :
    (scan.beginSourceBoundaryRecovery input).Coherent run := by
  have hreturn := h.inRange_boundaryReturnMv hoperational.1
  unfold SupplyScan.beginSourceBoundaryRecovery
  dsimp only
  split
  · exact { h with returnRequest := hreturn, phased := .inl hoperational }
  · obtain ⟨_, _, _, hnoted⟩ := scan.noteRapidFailure_of_rapid input hmode
    rw [hnoted]
    have hfailed : ∀ failedMv, some scan.requestMv = some failedMv → failedMv % 100 = 0 := by
      intro failedMv heq
      rw [← Option.some.inj heq]
      exact hoperational.1.step
    exact
      { h with
        returnRequest := hreturn
        returnCurrent := hoperational.2
        tracking := nofun
        failed := hfailed
        phased :=
          { operational := ⟨hreturn, hoperational.2⟩
            probe := rfl
            mode := hmode } }

/-! ## The response of the sweep -/

theorem Saved.sweepAtCeiling (h : scan.Saved run) (hsweeping : scan.Sweeping)
    (hmode : scan.mode = .rapid) (hidle : scan.normalProbe = false) :
    (scan.sweepAtCeiling input).Coherent run := by
  unfold SupplyScan.sweepAtCeiling
  split
  · exact
      { h with
        phased :=
          { operational := hsweeping.operational
            probe := hidle
            mode := hmode
            flat := .inl hsweeping.flat } }
  · exact h.beginSourceBoundaryRecovery hsweeping.operational hmode

/-- The observation of the current sample becomes the last tracking one. -/
theorem Saved.observed (h : scan.Saved run) (hpoint : scan.boundary.OperationalPoint
    (scan.point input)) (hobserved : run.Observed input.reading) :
    { scan with lastTracking := some (scan.point input) }.Saved run := by
  refine { h with tracking := ?_ }
  intro point hlast
  obtain rfl := Option.some.inj hlast
  exact ⟨hpoint, hobserved⟩

theorem Saved.tracked (h : scan.Saved run) (hoperational : scan.Operational)
    (hprobe : scan.normalProbe = true → scan.requestMa = 3000) (hflat : scan.FlatAllowed)
    (hobserved : run.Observed input.reading) :
    ∃ boundary bins,
      { scan with lastTracking := some (scan.point input) }.retainNormalTracking input =
        { scan with
          lastTracking := some (scan.point input)
          boundary := boundary
          normalBins := bins } ∧
      scan.boundary.SameHeader boundary ∧
      { scan with
        lastTracking := some (scan.point input)
        boundary := boundary
        normalBins := bins }.Saved run := by
  have hpoint : scan.boundary.OperationalPoint (scan.point input) :=
    h.operationalPoint hoperational hprobe hflat
  exact (h.observed hpoint hobserved).retainNormalTracking hpoint hobserved

theorem Sweeping.probesAbove (h : scan.Sweeping) (hpoint : scan.lastTracking = some point) :
    point.trackingRequestMv.toNat ≤ scan.requestMv := by
  rcases h.tracked point hpoint with hlt | ⟨heq, _⟩
  · exact hlt.le
  · exact heq.le

/-- One flat response counted: the request has been raised since the last tracking one. -/
theorem Sweeping.lt_of_flatCount (h : scan.Sweeping) (hcount : 1 ≤ scan.flatCount)
    (hpoint : scan.lastTracking = some point) :
    point.trackingRequestMv.toNat < scan.requestMv := by
  rcases h.tracked point hpoint with hlt | ⟨_, _, _, hzero⟩
  · exact hlt
  · omega

theorem Coherent.sweepResponse (h : scan.Coherent run) (hphase : scan.phase = .sweep)
    (hobserved : run.Observed input.reading) (previous : ScanInput) :
    (scan.sweepResponse input previous).Coherent run := by
  have hsweeping : scan.Sweeping := h.finds hphase
  have hoperational := hsweeping.operational
  unfold SupplyScan.sweepResponse
  split
  case h_1 =>
    -- the request tracks: it is the last tracking one from now on
    obtain ⟨_, _, heq, ⟨_, _, _, rfl⟩, hsaved⟩ := h.toSaved.tracked hoperational
      (fun hnormal => (hsweeping.probe hnormal).2) (.inl hsweeping.flat) hobserved
    dsimp only
    rw [heq]
    refine Saved.continueSweep { hsaved with } hphase hoperational hsweeping.probe hsweeping.flat
      ?_ nofun
    intro point hpoint
    obtain rfl := Option.some.inj hpoint
    exact (h.toNat_request hoperational.1.most).le
  case h_2 =>
    exact Saved.probeNextVoltage { h.toSaved with } hphase hoperational hsweeping.probe
      hsweeping.flat fun point hpoint => .inl (hsweeping.probesAbove hpoint)
  case h_3 =>
    refine Saved.continueSweep { h.toSaved with } hphase hoperational hsweeping.probe
      hsweeping.flat (fun point hpoint => hsweeping.probesAbove hpoint) ?_
    intro hcount point hpoint
    exact hsweeping.lt_of_flatCount (Nat.le_of_succ_le_succ hcount) hpoint
  case h_4 =>
    dsimp only
    split
    · exact Saved.handleAmbiguousConfirmation { h.toSaved with } hphase hoperational
        hsweeping.probe hsweeping.flat hsweeping.tracked
    · exact h.framed

theorem Coherent.sweep (h : scan.Coherent run) (hphase : scan.phase = .sweep)
    (hobserved : run.Observed input.reading) : (scan.sweep input).Coherent run := by
  have hsweeping : scan.Sweeping := h.finds hphase
  have hoperational := hsweeping.operational
  unfold SupplyScan.sweep
  split
  case h_1 =>
    obtain ⟨_, _, heq, ⟨_, _, _, rfl⟩, hsaved⟩ := h.toSaved.tracked hoperational
      (fun hnormal => (hsweeping.probe hnormal).2) (.inl hsweeping.flat) hobserved
    dsimp only
    rw [heq]
    refine Saved.probeNextVoltage { hsaved with } hphase hoperational hsweeping.probe
      hsweeping.flat ?_
    intro point hpoint
    obtain rfl := Option.some.inj hpoint
    exact .inl (h.toNat_request hoperational.1.most).le
  case h_2 previous _ =>
    split
    case isTrue hsag =>
      have hrapid := (Bool.and_eq_true_iff.mp hsag).1
      exact h.beginSourceBoundaryRecovery hoperational ((isRapid_iff scan).mp hrapid)
    case isFalse =>
      split
      case isTrue hceiling =>
        have hmode := (isRapid_iff scan).mp (Bool.and_eq_true_iff.mp hceiling).1
        have hidle := normalProbe_eq_false hmode fun hnormal => (hsweeping.probe hnormal).1
        exact h.sweepAtCeiling hsweeping hmode hidle
      case isFalse => exact h.sweepResponse hphase hobserved previous

/-! ## The rapid warm-up -/

theorem Saved.beginTerminalProbeOrComplete (h : scan.Saved run) (hwarming : scan.Warming) :
    (scan.beginTerminalProbeOrComplete input).Coherent run := by
  unfold SupplyScan.beginTerminalProbeOrComplete
  split
  case h_1 => exact { h with phased := .inl hwarming.operational }
  case h_2 targetMv targetMa htarget =>
    exact
      { h with
        phased :=
          { request := ⟨hwarming.mode, htarget⟩
            probe := hwarming.probe } }

/-- The request of the next probe is on the grid, whichever way it was chosen. -/
theorem Saved.nextRequestMv_step (h : scan.Saved run) (hvoltage : scan.InRange scan.requestMv) :
    scan.nextRequestMv % 100 = 0 := by
  have hceiling := h.ceiling.step
  have hgrid := hvoltage.step
  have hmost := hvoltage.most
  have hlimit := h.most
  unfold nextRequestMv
  cases hretest : scan.retestMv with
  | some failedMv =>
    have hfailed := h.failed failedMv (Option.filter_eq_some_iff.mp hretest).1
    rw [Option.getD_some]
    omega
  | none =>
    rw [Option.getD_none]
    rcases scan.rapidProbeStepMv_eq with hstep | hstep <;> rw [hstep]
    · rw [saturatingAddU16_of_le (by omega)]
      omega
    · rw [saturatingAddU16_of_le (by omega)]
      omega

theorem Saved.beginRapidVoltageReprobe (h : scan.Saved run) (hwarming : scan.Warming)
    (hobserved : run.Observed input.reading) :
    (scan.beginRapidVoltageReprobe input).Coherent run := by
  have hoperational := hwarming.operational
  have hvoltage := hoperational.1
  unfold SupplyScan.beginRapidVoltageReprobe
  split
  case isTrue => exact { h with phased := .inl hoperational }
  case isFalse hraised =>
    have hpoint : scan.boundary.OperationalPoint (scan.point input) :=
      h.operationalPoint hoperational hwarming.noProbe hwarming.flat
    have hunprobed : { scan with normalProbe := false }.point input = scan.point input := by
      rw [← hwarming.probe]
    have hnext : scan.InRange scan.nextRequestMv :=
      ⟨hvoltage.least.trans (not_le.mp hraised).le, Nat.min_le_right _ _,
        h.nextRequestMv_step hvoltage⟩
    have htracked : ∀ point, some (scan.point input) = some point →
        point.trackingRequestMv.toNat = scan.requestMv := by
      intro point hlast
      obtain rfl := Option.some.inj hlast
      exact h.toNat_request hvoltage.most
    rw [hunprobed]
    exact
      { h.observed hpoint hobserved with
        phased :=
          { operational := ⟨hnext, .threeAmps _⟩
            probe := nofun
            flat := rfl
            tracked := fun point hlast =>
              .inl (lt_of_eq_of_lt (htracked point hlast) (not_le.mp hraised)) } }

theorem Saved.handleRapidHotBoundary (h : scan.Saved run) (hwarming : scan.Warming)
    (hobserved : run.Observed input.reading) {handled : SupplyScan}
    (hhandled : scan.handleRapidHotBoundary input = some handled) : handled.Coherent run := by
  unfold SupplyScan.handleRapidHotBoundary at hhandled
  split at hhandled
  · cases hhandled
  · split at hhandled
    · obtain rfl := Option.some.inj hhandled
      exact h.beginTerminalProbeOrComplete hwarming
    · split at hhandled
      · obtain rfl := Option.some.inj hhandled
        exact h.beginRapidVoltageReprobe hwarming hobserved
      · cases hhandled

theorem Warming.stored (h : scan.Warming)
    {bins : Vector (Option BoundaryPoint) 20} (hheader : scan.boundary.SameHeader boundary) :
    { scan with boundary := boundary, normalBins := bins }.Warming := by
  obtain ⟨_, _, _, rfl⟩ := hheader
  exact { h with }

theorem Saved.confirmedWarmup (h : scan.Saved run) (hphase : scan.phase = .rapidWarmup)
    (hwarming : scan.Warming) (hobserved : run.Observed input.reading) :
    (scan.confirmedWarmup input).Coherent run := by
  have hpoint : scan.boundary.OperationalPoint (scan.point input) :=
    h.operationalPoint hwarming.operational hwarming.noProbe hwarming.flat
  obtain ⟨boundary, bins, heq, hheader, hsaved⟩ := h.retainNormalTracking hpoint hobserved
  have hwarming' : { scan with boundary := boundary, normalBins := bins }.Warming :=
    hwarming.stored hheader
  unfold SupplyScan.confirmedWarmup
  dsimp only
  rw [heq]
  split
  case h_1 handled hhandled => exact hsaved.handleRapidHotBoundary hwarming' hobserved hhandled
  case h_2 =>
    split
    · exact hsaved.beginRapidVoltageReprobe hwarming' hobserved
    · split
      · exact hsaved.beginTerminalProbeOrComplete hwarming'
      · split
        · exact hsaved.beginRapidVoltageReprobe hwarming' hobserved
        · exact (hsaved.coherent hphase hwarming').hold

theorem Coherent.rapidWarmup (h : scan.Coherent run) (hphase : scan.phase = .rapidWarmup)
    (hobserved : run.Observed input.reading) : (scan.rapidWarmup input).Coherent run := by
  have hwarming : scan.Warming := h.finds hphase
  unfold SupplyScan.rapidWarmup
  split
  · exact h.hold
  · split
    · exact h.beginSourceBoundaryRecovery hwarming.operational hwarming.mode
    · dsimp only
      split
      · exact Saved.confirmedWarmup { h.toSaved with } hphase { hwarming with } hobserved
      · exact h.framed.hold

/-! ## The terminal probe -/

theorem toNat_hundreds (mv : UInt16) : (mv / 100 * 100).toNat = mv.toNat / 100 * 100 := by
  have hlt := mv.toNat_lt
  rw [UInt16.toNat_mul, UInt16.toNat_div]
  show mv.toNat / 100 * 100 % 2 ^ 16 = mv.toNat / 100 * 100
  omega

theorem toNat_min (a b : UInt16) : (min a b).toNat = min a.toNat b.toNat := by
  show (if a ≤ b then a else b).toNat = _
  split
  case isTrue h => exact (min_eq_left (UInt16.le_iff_toNat_le.mp h)).symm
  case isFalse h =>
    have hlt := UInt16.lt_iff_toNat_lt.mp (UInt16.not_le.mp h)
    exact (min_eq_right hlt.le).symm

/-- The target lies above the operational range, and its current is the one with which a
terminal observation is stored. -/
theorem terminalProbeTarget_spec {mv ma : ℕ} (h : scan.terminalProbeTarget = some (mv, ma)) :
    ∃ targetMv targetMa : UInt16, mv = targetMv.toNat ∧ ma = targetMa.toNat ∧
      scan.boundary.sourceMaxMv < targetMv ∧ targetMv ≤ scan.boundary.advertisedMaxMv ∧
      targetMv ≤ 21000 ∧ targetMv.toNat % 100 = 0 ∧
      terminalTrackingCurrentMa scan.boundary.sourcePowerLimitMw targetMv = some targetMa := by
  unfold terminalProbeTarget at h
  dsimp only at h
  have hround := toNat_hundreds (min scan.boundary.advertisedMaxMv 21000)
  have hmin : (min scan.boundary.advertisedMaxMv 21000).toNat =
      min scan.boundary.advertisedMaxMv.toNat 21000 := toNat_min _ _
  generalize min scan.boundary.advertisedMaxMv 21000 / 100 * 100 = targetMv at h hround
  split at h
  · cases h
  case isFalse hguard =>
    obtain ⟨habove, hlimit⟩ := not_or.mp hguard
    have habove' := UInt16.not_le.mp habove
    split at h
    case isFalse => cases h
    case isTrue hleast =>
      obtain ⟨hmv, hma⟩ := Prod.mk.inj (Option.some.inj h)
      have hpositive : targetMv ≠ 0 := by
        rintro rfl
        exact absurd habove' (by simp)
      have hadvertised : targetMv ≤ scan.boundary.advertisedMaxMv := by
        rw [UInt16.le_iff_toNat_le]
        omega
      have hmost : targetMv ≤ 21000 := by
        rw [UInt16.le_iff_toNat_le]
        show targetMv.toNat ≤ 21000
        omega
      refine ⟨targetMv, _, hmv.symm, hma.symm, habove', hadvertised, hmost, by omega, ?_⟩
      unfold terminalTrackingCurrentMa
      rw [if_neg (not_or.mpr ⟨hlimit, hpositive⟩)]
      exact if_pos hleast

theorem Saved.leaveTerminalProbe (h : scan.Saved run) (hprobing : scan.Probing) :
    (scan.leaveTerminalProbe input).Coherent run :=
  { h with
    returnRequest := h.ceiling
    returnCurrent := .threeAmps _
    phased :=
      { operational := ⟨h.ceiling, .threeAmps _⟩
        probe := hprobing.probe
        mode := hprobing.request.1 } }

theorem Probing.terminalPoint (hprobing : scan.Probing) :
    scan.boundary.TerminalPoint
      { scan.point input with flatRequestMv := 0, trackingOnly := true } := by
  obtain ⟨targetMv, targetMa, hmv, hma, habove, hadvertised, _, hstep, hcurrent⟩ :=
    terminalProbeTarget_spec hprobing.request.2
  have hpointMv : (scan.point input).trackingRequestMv = targetMv := by
    show scan.requestMv.toUInt16 = targetMv
    rw [hmv, Nat.toUInt16_eq, UInt16.ofNat_toNat]
  have hpointMa : (scan.point input).requestCurrentMa = targetMa := by
    show scan.requestMa.toUInt16 = targetMa
    rw [hma, Nat.toUInt16_eq, UInt16.ofNat_toNat]
  refine ⟨⟨rfl, ?_, ?_, ?_⟩, ?_, rfl⟩ <;> simp only [hpointMv, hpointMa]
  · exact habove
  · exact hadvertised
  · exact hcurrent
  · exact hstep

theorem AtTerminal.stored (h : scan.AtTerminal) (hheader : scan.boundary.SameHeader boundary) :
    { scan with boundary := boundary }.AtTerminal := by
  obtain ⟨_, _, _, rfl⟩ := hheader
  exact h

theorem Operational.stored (h : scan.Operational) (hheader : scan.boundary.SameHeader boundary) :
    { scan with boundary := boundary }.Operational := by
  obtain ⟨_, _, _, rfl⟩ := hheader
  exact h

theorem Saved.retainTerminalPoint (h : scan.Saved run) (hprobing : scan.Probing)
    (hobserved : run.Observed input.reading) : (scan.retainTerminalPoint input).Coherent run := by
  have hpoint : scan.boundary.TerminalPoint
      { scan.point input with flatRequestMv := 0, trackingOnly := true } := hprobing.terminalPoint
  have hrecords := h.records.retain (.inr hpoint) hobserved
  have hheader := scan.boundary.sameHeader_retain
    { scan.point input with flatRequestMv := 0, trackingOnly := true }
  have hsaved : { scan with boundary := (scan.boundary.retain
      { scan.point input with flatRequestMv := 0, trackingOnly := true }).2 }.Saved run :=
    h.stored hheader hrecords h.bins
  have hrequest := hprobing.request.stored hheader
  unfold SupplyScan.retainTerminalPoint
  dsimp only
  split
  · exact { hsaved with phased := .inr hrequest }
  · exact { hsaved with phased := .inr hrequest }

theorem Coherent.terminalProbe (h : scan.Coherent run) (hphase : scan.phase = .terminalProbe)
    (hobserved : run.Observed input.reading) : (scan.terminalProbe input).Coherent run := by
  have hprobing : scan.Probing := h.finds hphase
  unfold SupplyScan.terminalProbe
  split
  · exact h.hold
  · split
    · exact h.leaveTerminalProbe hprobing
    · dsimp only
      split
      · exact Saved.retainTerminalPoint { h.toSaved with } { hprobing with } hobserved
      · exact h.framed.hold

/-! ## Recovery and equilibrium -/

theorem Coherent.probeRecovery (h : scan.Coherent run) (hphase : scan.phase = .probeRecovery) :
    (scan.probeRecovery input).Coherent run := by
  have hunloading : scan.Unloading := h.finds hphase
  have hnotrack : ∀ point, scan.lastTracking = some point → scan.TrackedBelow point := by
    rw [hunloading.tracked]
    nofun
  unfold SupplyScan.probeRecovery
  split
  · exact h.hold
  · dsimp only
    split
    · exact
        { h.toSaved with
          phased :=
            { hunloading with
              probe := hunloading.noProbe
              tracked := hnotrack } }
    · -- the request comes down in steps, not below the one it returns to
      have hlowered : scan.InRange (max (scan.requestMv - probeRecoveryStepMv)
          (max scan.returnRequestMv scan.sourceMinMv)) := by
        obtain ⟨hleast, hmost, hstep⟩ := hunloading.operational.1
        obtain ⟨hleast', hmost', hstep'⟩ := h.returnRequest
        have hrecovery : probeRecoveryStepMv = 500 := rfl
        refine ⟨?_, ?_, ?_⟩ <;> omega
      generalize max (scan.requestMv - probeRecoveryStepMv)
        (max scan.returnRequestMv scan.sourceMinMv) = loweredMv at hlowered ⊢
      have hunloading' : (scan.change input loweredMv scan.returnCurrentMa).Unloading :=
        { hunloading with operational := ⟨hlowered, h.returnCurrent⟩ }
      exact (h.change _ _).coherent hphase hunloading'

theorem Coherent.sourceBoundaryRecovery (h : scan.Coherent run)
    (hphase : scan.phase = .sourceBoundaryRecovery) :
    (scan.sourceBoundaryRecovery input).Coherent run := by
  have hrecovering : scan.Recovering := h.finds hphase
  unfold SupplyScan.sourceBoundaryRecovery
  split
  · exact h.hold
  · split
    · exact h
    · exact { h.toSaved with phased := { hrecovering with flat := .inl rfl } }

theorem Saved.finishThreeAmpEquilibrium (h : scan.Saved run) (hidle : scan.Idle) :
    (scan.finishThreeAmpEquilibrium input).Coherent run := by
  unfold SupplyScan.finishThreeAmpEquilibrium
  dsimp only
  split
  · exact { h with phased := .inl hidle.operational }
  · exact Saved.probeNextVoltage { h with tracking := nofun } rfl hidle.operational
      hidle.noProbe rfl nofun

theorem Saved.retainTracking (h : scan.Saved run) :
    ∃ boundary, scan.retainTracking = { scan with boundary := boundary } ∧
      scan.boundary.SameHeader boundary ∧ { scan with boundary := boundary }.Saved run := by
  unfold SupplyScan.retainTracking
  split
  case h_1 point hpoint =>
    split
    · exact ⟨scan.boundary, rfl, .refl _, h⟩
    · obtain ⟨hoperational, hobserved⟩ := h.tracking point hpoint
      have hheader := scan.boundary.sameHeader_retain point
      exact ⟨_, rfl, hheader,
        h.stored hheader (h.records.retain (.inl hoperational) hobserved) h.bins⟩
  case h_2 => exact ⟨scan.boundary, rfl, .refl _, h⟩

theorem Saved.equilibriumReached (h : scan.Saved run) (hbalancing : scan.Balancing)
    (hobserved : run.Observed input.reading) : (scan.equilibriumReached input).Coherent run := by
  have hpoint : scan.boundary.OperationalPoint (scan.point input) :=
    h.operationalPoint hbalancing.operational hbalancing.noProbe hbalancing.flat
  obtain ⟨boundary, heq, ⟨_, _, _, rfl⟩, hsaved⟩ := (h.observed hpoint hobserved).retainTracking
  unfold SupplyScan.equilibriumReached
  dsimp only
  rw [heq]
  split
  · exact hsaved.finishThreeAmpEquilibrium
      { operational := hbalancing.operational, probe := hbalancing.probe }
  · exact hsaved.beginThreeAmpProbe hbalancing.operational hbalancing.mode

/-- The equilibrium lies one step below the last tracking request, or both are the floor. -/
theorem Saved.probesAbove_equilibrium (h : scan.Saved run) (hbalancing : scan.Balancing)
    (hpoint : scan.lastTracking = some point) :
    point.trackingRequestMv.toNat ≤ scan.requestMv ∨
      point.trackingRequestMv.toNat = scan.requestMv + 100 := by
  have hheld := hbalancing.tracked point hpoint
  obtain ⟨hleast, _, hstep⟩ := h.inRange_tracking hpoint
  have hfloor := h.floor.step
  omega

theorem Coherent.observeEquilibrium (h : scan.Coherent run)
    (hphase : scan.phase = .equilibrium) (hobserved : run.Observed input.reading) :
    (scan.observeEquilibrium input).Coherent run := by
  have hbalancing : scan.Balancing := h.finds hphase
  unfold SupplyScan.observeEquilibrium
  dsimp only
  split
  · exact Saved.equilibriumReached { h.toSaved with } { hbalancing with } hobserved
  · split
    · -- the plate is warming: the sweep goes on from the held request
      refine Saved.probeNextVoltage { h.toSaved with } rfl hbalancing.operational
        hbalancing.noProbe rfl ?_
      intro point hpoint
      rcases h.probesAbove_equilibrium hbalancing hpoint with hle | heq
      · exact .inl hle
      · exact .inr ⟨heq, hbalancing.mode, rfl⟩
    · exact h.framed

/-! ## Every step -/

theorem Coherent.baseline (h : scan.Coherent run) (hphase : scan.phase = .baseline) :
    (scan.baseline input).Coherent run := by
  have hidle : scan.Idle := h.finds hphase
  unfold SupplyScan.baseline
  split
  · exact h.fail _
  · exact { h.toSaved with phased := { hidle with } }

theorem currentAllowed_preflight (scan : SupplyScan) :
    CurrentAllowed scan.mode (if scan.isRapid then 3000 else minHeatedCurrentMa.toNat) := by
  split
  case isTrue => exact .threeAmps _
  case isFalse hrapid =>
    have hheated : minHeatedCurrentMa.toNat = 2000 := rfl
    have hmode := mode_eq_detailed hrapid
    exact ⟨by omega, by omega, by omega, by rw [hmode]; nofun⟩

theorem Coherent.preflight (h : scan.Coherent run) : (scan.preflight input).Coherent run := by
  unfold SupplyScan.preflight
  split
  · exact h.fail _
  · split
    case h_1 => exact h.framed
    case h_2 =>
      split
      · exact h.fail _
      · exact
          { h.toSaved with
            returnRequest := h.floor
            tracking := nofun
            phased :=
              { operational := ⟨h.floor, scan.currentAllowed_preflight⟩
                probe := nofun
                flat := rfl
                tracked := nofun } }

theorem Coherent.not_unused (h : scan.Coherent run) :
    scan.phase ≠ .preflightRecovery ∧ scan.phase ≠ .temperatureSettle :=
  ⟨fun hphase => h.finds hphase, fun hphase => h.finds hphase⟩

theorem Coherent.advance (h : scan.Coherent run) (hobserved : run.Observed input.reading) :
    (scan.advance input).Coherent run := by
  unfold SupplyScan.advance
  split
  · exact h.hold
  · split
    case h_1 hphase => exact h.baseline hphase
    case h_2 => exact h.preflight
    case h_3 hphase => exact absurd hphase h.not_unused.1
    case h_4 hphase => exact h.probeRecovery hphase
    case h_5 hphase => exact h.sourceBoundaryRecovery hphase
    case h_6 hphase => exact h.sweep hphase hobserved
    case h_7 hphase => exact h.rapidWarmup hphase hobserved
    case h_8 hphase => exact h.terminalProbe hphase hobserved
    case h_9 hphase => exact absurd hphase h.not_unused.2
    case h_10 hphase => exact h.observeEquilibrium hphase hobserved
    case h_11 => exact h
    case h_12 => exact h

theorem Coherent.cutOff (h : scan.Coherent run) : scan.cutOff.Coherent run := by
  have hflagged : scan.boundary.SameHeader { scan.boundary with cutoffReached := true } :=
    ⟨true, scan.boundary.points, scan.boundary.pointCount, rfl⟩
  have hrecords : { scan.boundary with cutoffReached := true }.Records run.Observed :=
    ⟨h.records.pointCount, fun point hmem =>
      ⟨(h.records.retained point hmem).1.of_sameHeader hflagged, (h.records.retained point hmem).2⟩⟩
  have hsaved : { scan with
      cutoffReached := true
      boundary := { scan.boundary with cutoffReached := true } }.Saved run :=
    { h.stored hflagged hrecords h.bins with }
  obtain ⟨boundary, heq, hheader, hretained⟩ := hsaved.retainTracking
  have hrequest : { scan with boundary := boundary }.Operational ∨
      { scan with boundary := boundary }.AtTerminal := by
    rcases h.request with hoperational | hterminal
    · exact .inl (hoperational.stored (hflagged.trans hheader))
    · exact .inr (hterminal.stored (hflagged.trans hheader))
  unfold SupplyScan.cutOff
  dsimp only
  rw [heq]
  exact { hretained with phased := hrequest }

/-- A stage timeout of the terminal probe, with a current that one more step does not bring to
3 A: the sample is in order, and nothing that `update` looks at before the timeout applies. -/
structure ProbeTimesOut (scan : SupplyScan) (input : ScanInput) : Prop where
  phase : scan.phase = .terminalProbe
  current : scan.requestMa < 2900
  wifi : input.wifiStarted = scan.boundary.wifiStarted
  sample : sampleIsInvalid input = false
  temperature : input.temperatureCentiC < minThermalCoverageCentiC
  timeout : scan.stageTimedOut input = true

theorem Coherent.operational (h : scan.Coherent run)
    (hrunning : scan.phase ≠ .complete ∧ scan.phase ≠ .failed)
    (hprobe : scan.phase ≠ .terminalProbe) : scan.Operational := by
  have hphased := h.phased
  unfold Finds at hphased
  split at hphased
  case h_1 | h_2 => exact hphased.operational
  case h_3 | h_4 => exact hphased.elim
  case h_5 | h_6 | h_7 | h_8 | h_9 => exact hphased.operational
  case h_10 hphase => exact absurd hphase hprobe
  case h_11 hphase => exact absurd hphase hrunning.1
  case h_12 hphase => exact absurd hphase hrunning.2

theorem Coherent.sweep_of_normalProbe (h : scan.Coherent run)
    (hrunning : scan.phase ≠ .complete ∧ scan.phase ≠ .failed)
    (hprobe : scan.normalProbe = true) : scan.phase = .sweep := by
  have hphased := h.phased
  unfold Finds at hphased
  split at hphased
  case h_1 | h_2 => exact hphased.noProbe hprobe
  case h_3 | h_4 => exact hphased.elim
  case h_5 hphase => exact hphase
  case h_6 | h_7 | h_8 | h_9 => exact hphased.noProbe hprobe
  case h_10 =>
    rw [hphased.probe] at hprobe
    cases hprobe
  case h_11 hphase => exact absurd hphase hrunning.1
  case h_12 hphase => exact absurd hphase hrunning.2

theorem Coherent.handleStageTimeout (h : scan.Coherent run)
    (hoperational : scan.requestMa < 2900 → scan.Operational) :
    (scan.handleStageTimeout input).Coherent run := by
  unfold SupplyScan.handleStageTimeout
  split
  case isTrue => exact h.fail _
  case isFalse hcurrent =>
    refine h.nextCurrentStage ?_
    by_cases hnear : 2900 ≤ scan.requestMa
    · -- the next current is 3 A, whatever was requested before
      have hthree : min (saturatingAddU16 scan.requestMa 100) 3000 = 3000 := by
        rw [saturatingAddU16_of_le (by omega)]
        omega
      rw [hthree]
      exact .threeAmps _
    · exact (hoperational (not_le.mp hnear)).2.nextStage

theorem Coherent.coverageProbe (h : scan.Coherent run) (hdue : scan.coverageProbeDue input = true) :
    (scan.beginThreeAmpProbe input).Coherent run := by
  obtain ⟨⟨⟨⟨_, hcurrent⟩, _⟩, hphase⟩, _⟩ :
      (((_ ∧ scan.requestMa < 3000) ∧ _) ∧
        (scan.phase = .sweep ∨ scan.phase = .temperatureSettle)) ∧ _ := by
    simpa [coverageProbeDue] using hdue
  have hsweep : scan.phase = .sweep := hphase.resolve_right h.not_unused.2
  have hsweeping : scan.Sweeping := h.finds hsweep
  have hoperational := hsweeping.operational
  refine h.beginThreeAmpProbe hoperational ?_
  cases hmode : scan.mode with
  | detailed => rfl
  | rapid =>
    have hma := hoperational.2.rapid hmode
    omega

theorem Coherent.respond (h : scan.Coherent run)
    (hrunning : scan.phase ≠ .complete ∧ scan.phase ≠ .failed)
    (htimeout : ¬ scan.ProbeTimesOut input)
    (hobserved : sampleIsInvalid input = false → run.Observed input.reading)
    (stabilityTemperatureCentiC : ℤ) :
    (scan.respond input stabilityTemperatureCentiC).Coherent run := by
  unfold SupplyScan.respond
  split
  case isTrue => exact h.fail _
  case isFalse hwifi =>
  split
  case isTrue => exact h.fail _
  case isFalse hsample =>
  split
  case isTrue => exact h.cutOff
  case isFalse htemperature =>
  split
  case isTrue hnormal =>
    have hprobe : scan.normalProbe = true := (Bool.and_eq_true_iff.mp hnormal).1
    have hsweeping : scan.Sweeping := h.finds (h.sweep_of_normalProbe hrunning hprobe)
    exact h.finishNormalProbe hsweeping.operational.1 (hsweeping.probe hprobe).1
  case isFalse =>
  split
  case isTrue htimedOut =>
    refine h.handleStageTimeout fun hcurrent => h.operational hrunning ?_
    intro hphase
    exact htimeout ⟨hphase, hcurrent, not_not.mp hwifi, by simpa using hsample,
      not_le.mp htemperature, htimedOut⟩
  case isFalse =>
  split
  case isTrue hdue => exact h.coverageProbe hdue
  case isFalse =>
  split
  case isTrue => exact h.hold
  case isFalse =>
  split
  case isTrue => exact h.advance (hobserved (by simpa using hsample))
  case isFalse => exact h

/-- Every step but the timeout of a terminal probe keeps the invariant. -/
theorem Coherent.update (h : scan.Coherent run) (htimeout : ¬ scan.ProbeTimesOut input)
    (hobserved : sampleIsInvalid input = false → run.Observed input.reading) :
    (scan.update input).Coherent run := by
  unfold SupplyScan.update
  split
  case isTrue => exact h
  case isFalse hrunning =>
    have hfiltered : { scan with
        stabilityTemperatureCentiC :=
          some (scan.filteredTemperature input.temperatureCentiC) }.Coherent run := h.framed
    refine hfiltered.respond (not_or.mp hrunning) ?_ hobserved _
    intro hprobe
    exact htimeout { hprobe with }

end SupplyScan

end FluxPurr.Supply
