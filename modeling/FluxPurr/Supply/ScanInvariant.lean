import FluxPurr.Supply.Retention

/-!
# The invariant of the supply scan

`Coherent` says what holds between two samples: the saved requests and currents lie in the
operational range, every retained observation is a point the source may store, and the
fields the current phase reads are those it left behind (`Finds`).

The one step that breaks it is a stage timeout of the terminal probe, which continues the
sweep with the current of the probe (`ProbeTimesOut`); `Coherent.update` is about every
other step.
-/

namespace FluxPurr.Supply

/-- The currents a request may have outside the terminal probe. -/
structure CurrentAllowed (mode : ScanMode) (requestMa : ℕ) : Prop where
  least : 2000 ≤ requestMa
  most : requestMa ≤ 3000
  step : requestMa % 100 = 0
  rapid : mode = .rapid → requestMa = 3000

section Currents

variable {mode : ScanMode} {requestMa : ℕ}

theorem CurrentAllowed.threeAmps (mode : ScanMode) : CurrentAllowed mode 3000 where
  least := by omega
  most := by omega
  step := by omega
  rapid := fun _ => rfl

theorem CurrentAllowed.next (h : CurrentAllowed mode requestMa) :
    CurrentAllowed mode (min (requestMa + 100) 3000) := by
  obtain ⟨hleast, hmost, hstep, hrapid⟩ := h
  refine ⟨by omega, by omega, by omega, ?_⟩
  intro hmode
  have hma := hrapid hmode
  omega

theorem saturatingAddU16_of_le {a b : ℕ} (h : a + b ≤ 65535) : saturatingAddU16 a b = a + b :=
  Nat.min_eq_right h

theorem CurrentAllowed.nextStage (h : CurrentAllowed mode requestMa) :
    CurrentAllowed mode (min (saturatingAddU16 requestMa 100) 3000) := by
  have hmost := h.most
  rw [saturatingAddU16_of_le (by omega)]
  exact h.next

end Currents

namespace SupplyScan

open SupplyBoundary

/-- A voltage the source may be asked for outside the terminal probe. -/
structure VoltageAllowed (leastMv mostMv requestMv : ℕ) : Prop where
  least : leastMv ≤ requestMv
  most : requestMv ≤ mostMv
  step : requestMv % 100 = 0

def InRange (scan : SupplyScan) (requestMv : ℕ) : Prop :=
  VoltageAllowed scan.sourceMinMv scan.sourceMaxMv requestMv

def Operational (scan : SupplyScan) : Prop :=
  scan.InRange scan.requestMv ∧ CurrentAllowed scan.mode scan.requestMa

/-- Only the rapid scan probes above the operational range. -/
def AtTerminal (scan : SupplyScan) : Prop :=
  scan.mode = .rapid ∧ scan.terminalProbeTarget = some (scan.requestMv, scan.requestMa)

/-- A flat response lies above the request that is held. -/
def FlatAllowed (scan : SupplyScan) : Prop :=
  scan.flatRequestMv = 0 ∨
    scan.requestMv < scan.flatRequestMv ∧ scan.flatRequestMv ≤ scan.sourceMaxMv

/-- The request of the sweep is above the last one that tracked.  When an equilibrium is
scanned again it is first at that request, with no flat response counted. -/
def TrackedBelow (scan : SupplyScan) (point : BoundaryPoint) : Prop :=
  point.trackingRequestMv.toNat < scan.requestMv ∨
    point.trackingRequestMv.toNat = scan.requestMv ∧ scan.mode = .detailed ∧
      scan.sourceMinMv + 100 ≤ scan.requestMv ∧ scan.flatCount = 0

/-! ## What each phase finds -/

structure Idle (scan : SupplyScan) : Prop where
  operational : scan.Operational
  probe : scan.normalProbe = false

structure Sweeping (scan : SupplyScan) : Prop where
  operational : scan.Operational
  probe : scan.normalProbe = true → scan.mode = .detailed ∧ scan.requestMa = 3000
  flat : scan.flatRequestMv = 0
  tracked : ∀ point, scan.lastTracking = some point → scan.TrackedBelow point

structure Unloading (scan : SupplyScan) : Prop extends scan.Idle where
  mode : scan.mode = .detailed
  flat : scan.flatRequestMv = 0
  tracked : scan.lastTracking = none

/-- The equilibrium is held one step inside the tracking region. -/
structure Balancing (scan : SupplyScan) : Prop extends scan.Idle where
  mode : scan.mode = .detailed
  flat : scan.FlatAllowed
  tracked : ∀ point, scan.lastTracking = some point →
    scan.requestMv = max (point.trackingRequestMv.toNat - 100) scan.sourceMinMv

structure Recovering (scan : SupplyScan) : Prop extends scan.Idle where
  mode : scan.mode = .rapid

structure Warming (scan : SupplyScan) : Prop extends scan.Recovering where
  flat : scan.FlatAllowed

structure Probing (scan : SupplyScan) : Prop where
  request : scan.AtTerminal
  probe : scan.normalProbe = false

/-- No transition leads to `preflightRecovery` or to `temperatureSettle`. -/
def Finds (scan : SupplyScan) : ScanPhase → Prop
  | .baseline | .preflight => scan.Idle
  | .preflightRecovery | .temperatureSettle => False
  | .sweep => scan.Sweeping
  | .probeRecovery => scan.Unloading
  | .equilibrium => scan.Balancing
  | .sourceBoundaryRecovery => scan.Recovering
  | .rapidWarmup => scan.Warming
  | .terminalProbe => scan.Probing
  | .complete | .failed => scan.Operational ∨ scan.AtTerminal

/-- What is fixed for a run: the source, the mode, and what is known of the readings. -/
structure ScanRun where
  Observed : Reading → Prop
  source : SupplyBoundary
  mode : ScanMode

/-- What the scan keeps from one phase to another. -/
structure Saved (scan : SupplyScan) (run : ScanRun) : Prop where
  header : run.source.SameHeader scan.boundary
  mode : scan.mode = run.mode
  floor : scan.InRange scan.sourceMinMv
  ceiling : scan.InRange scan.sourceMaxMv
  range : scan.sourceMinMv < scan.sourceMaxMv
  most : scan.sourceMaxMv ≤ 21000
  returnRequest : scan.InRange scan.returnRequestMv
  returnCurrent : CurrentAllowed scan.mode scan.returnCurrentMa
  tracking : ∀ point, scan.lastTracking = some point →
    scan.boundary.OperationalPoint point ∧ run.Observed point.reading
  bins : ∀ point, some point ∈ scan.normalBins.toList →
    scan.boundary.OperationalPoint point ∧ run.Observed point.reading
  records : scan.boundary.Records run.Observed
  failed : ∀ failedMv, scan.rapidFailedProbeMv = some failedMv → failedMv % 100 = 0

structure Coherent (scan : SupplyScan) (run : ScanRun) : Prop extends scan.Saved run where
  phased : scan.Finds scan.phase

variable {run : ScanRun} {scan : SupplyScan} {input : ScanInput}

theorem isRapid_iff (scan : SupplyScan) : scan.isRapid = true ↔ scan.mode = .rapid := by
  simp [isRapid]

theorem mode_eq_detailed (h : ¬ scan.isRapid = true) : scan.mode = .detailed := by
  cases hmode : scan.mode with
  | detailed => rfl
  | rapid => exact absurd ((isRapid_iff scan).mpr hmode) h

theorem Saved.change (h : scan.Saved run) (requestMv requestMa : ℕ) :
    (scan.change input requestMv requestMa).Saved run :=
  { h with }

theorem normalProbe_eq_false (hmode : scan.mode = .rapid)
    (hprobe : scan.normalProbe = true → scan.mode = .detailed) : scan.normalProbe = false := by
  cases hnormal : scan.normalProbe with
  | false => rfl
  | true =>
    have hdetailed := hprobe hnormal
    rw [hmode] at hdetailed
    cases hdetailed

theorem Idle.noProbe (h : scan.Idle) {P : Prop} : scan.normalProbe = true → P := by
  rw [h.probe]
  nofun

theorem Coherent.finds (h : scan.Coherent run) {phase : ScanPhase}
    (hphase : scan.phase = phase) : scan.Finds phase := by
  rw [← hphase]
  exact h.phased

theorem Saved.coherent (h : scan.Saved run) {phase : ScanPhase}
    (hphase : scan.phase = phase) (hfinds : scan.Finds phase) : scan.Coherent run := by
  refine { h with phased := ?_ }
  rw [hphase]
  exact hfinds

/-- Whatever the phase, the request is operational or that of the terminal probe. -/
theorem Coherent.request (h : scan.Coherent run) : scan.Operational ∨ scan.AtTerminal := by
  have hphased := h.phased
  unfold Finds at hphased
  split at hphased
  case h_1 | h_2 => exact .inl hphased.operational
  case h_3 | h_4 => exact hphased.elim
  case h_5 | h_6 | h_7 | h_8 | h_9 => exact .inl hphased.operational
  case h_10 => exact .inr hphased.request
  case h_11 | h_12 => exact hphased

theorem Coherent.fail (h : scan.Coherent run) (reason : ScanFailure) :
    (scan.fail reason).Coherent run :=
  { h with phased := h.request }

theorem Coherent.framed {changedAtMs : ℕ} {previous : Option ScanInput} {ambiguousCount : ℕ}
    {equilibrium : EquilibriumWindow} {stabilityTemperatureCentiC : Option ℤ}
    {rapidTrackingConfirmations terminalProbeConfirmations : ℕ}
    {lastRapidProbeTemperatureCentiC : Option ℤ} (h : scan.Coherent run) :
    { scan with
      changedAtMs := changedAtMs
      previous := previous
      ambiguousCount := ambiguousCount
      equilibrium := equilibrium
      stabilityTemperatureCentiC := stabilityTemperatureCentiC
      rapidTrackingConfirmations := rapidTrackingConfirmations
      terminalProbeConfirmations := terminalProbeConfirmations
      lastRapidProbeTemperatureCentiC := lastRapidProbeTemperatureCentiC }.Coherent run := by
  refine { h with phased := ?_ }
  have hphased := h.phased
  show Finds _ scan.phase
  cases hphase : scan.phase <;> rw [hphase] at hphased
  case preflightRecovery | temperatureSettle => exact hphased
  case complete | failed => exact hphased
  all_goals exact { hphased with }

theorem Coherent.hold (h : scan.Coherent run) : (scan.hold input).Coherent run := h.framed

/-! ## Stages and probes -/

theorem Saved.nextCurrentStage (h : scan.Saved run)
    (hcurrent : CurrentAllowed scan.mode (min (saturatingAddU16 scan.requestMa 100) 3000)) :
    (scan.nextCurrentStage input).Coherent run :=
  { h with
    tracking := nofun
    phased :=
      { operational := ⟨h.floor, hcurrent⟩
        probe := nofun
        flat := rfl
        tracked := nofun } }

theorem Saved.beginThreeAmpProbe (h : scan.Saved run) (hoperational : scan.Operational)
    (hmode : scan.mode = .detailed) : (scan.beginThreeAmpProbe input).Coherent run := by
  obtain ⟨hvoltage, hcurrent⟩ := hoperational
  have hreturn : scan.InRange (max scan.requestMv scan.sourceMinMv) := by
    rw [max_eq_left hvoltage.least]
    exact hvoltage
  unfold SupplyScan.beginThreeAmpProbe
  split
  · exact h.nextCurrentStage hcurrent.nextStage
  · have hreturnCurrent : CurrentAllowed scan.mode
        (if scan.phase = .equilibrium then min (scan.requestMa + 100) 3000
          else scan.requestMa) := by
      split
      · exact hcurrent.next
      · exact hcurrent
    exact
      { h with
        returnRequest := hreturn
        returnCurrent := hreturnCurrent
        tracking := nofun
        phased :=
          { operational := ⟨hreturn, .threeAmps _⟩
            probe := fun _ => ⟨hmode, rfl⟩
            flat := rfl
            tracked := nofun } }

theorem Saved.finishNormalProbe (h : scan.Saved run) (hvoltage : scan.InRange scan.requestMv)
    (hmode : scan.mode = .detailed) : (scan.finishNormalProbe input).Coherent run :=
  { h with
    tracking := nofun
    phased :=
      { operational := ⟨hvoltage, h.returnCurrent⟩
        probe := rfl
        mode := hmode
        flat := rfl
        tracked := rfl } }

theorem Saved.enterRapidWarmup (h : scan.Saved run) (hwarming : scan.Warming) :
    (scan.enterRapidWarmup input).Coherent run :=
  { h with phased := { hwarming with } }

/-- The flat response is above the held request, both when that is the last tracking request
and when it is one step below it. -/
def Bracketed (scan : SupplyScan) : Prop :=
  scan.flatRequestMv = 0 ∨
    scan.flatRequestMv ≤ scan.sourceMaxMv ∧ ∀ point, scan.lastTracking = some point →
      point.trackingRequestMv.toNat < scan.flatRequestMv ∨
        point.trackingRequestMv.toNat = scan.flatRequestMv ∧ scan.mode = .detailed ∧
          scan.sourceMinMv + 100 ≤ scan.flatRequestMv

theorem Saved.inRange_tracking (h : scan.Saved run) {point : BoundaryPoint}
    (hpoint : scan.lastTracking = some point) : scan.InRange point.trackingRequestMv.toNat := by
  have hoperational := (h.tracking point hpoint).1
  exact { hoperational with }

/-- One step inside the tracking region, but not below the floor. -/
theorem Saved.inRange_inside (h : scan.Saved run) {point : BoundaryPoint}
    (hpoint : scan.lastTracking = some point) :
    scan.InRange (max (point.trackingRequestMv.toNat - 100) scan.sourceMinMv) := by
  have hleast := (h.inRange_tracking hpoint).least
  have hmost := (h.inRange_tracking hpoint).most
  have hstep := (h.inRange_tracking hpoint).step
  have hfloor := h.floor.step
  constructor <;> omega

theorem Saved.beginEquilibrium (h : scan.Saved run) (hoperational : scan.Operational)
    (hprobe : scan.normalProbe = true → scan.mode = .detailed) (hflat : scan.Bracketed) :
    (scan.beginEquilibrium input).Coherent run := by
  unfold SupplyScan.beginEquilibrium
  split
  case h_1 => exact { h with phased := .inl hoperational }
  case h_2 point hpoint =>
    have hleast := (h.inRange_tracking hpoint).least
    have hmost := (h.inRange_tracking hpoint).most
    split
    case isTrue hnormal => exact h.finishNormalProbe hoperational.1 (hprobe hnormal)
    case isFalse hnormal =>
      have hidle : scan.normalProbe = false := by simpa using hnormal
      split
      case isTrue hrapid =>
        have hmode := (isRapid_iff scan).mp hrapid
        have hbelow : scan.flatRequestMv = 0 ∨
            point.trackingRequestMv.toNat < scan.flatRequestMv ∧
              scan.flatRequestMv ≤ scan.sourceMaxMv := by
          rcases hflat with hzero | ⟨hle, htracked⟩
          · exact .inl hzero
          · rcases htracked point hpoint with hlt | ⟨_, hdetailed, _⟩
            · exact .inr ⟨hlt, hle⟩
            · rw [hmode] at hdetailed
              cases hdetailed
        exact
          { h with
            phased :=
              { operational := ⟨h.inRange_tracking hpoint, hoperational.2⟩
                probe := hidle
                mode := hmode
                flat := hbelow } }
      case isFalse hrapid =>
        have hmode := mode_eq_detailed hrapid
        have hinside : scan.flatRequestMv = 0 ∨
            max (point.trackingRequestMv.toNat - 100) scan.sourceMinMv < scan.flatRequestMv ∧
              scan.flatRequestMv ≤ scan.sourceMaxMv := by
          rcases hflat with hzero | ⟨hle, htracked⟩
          · exact .inl hzero
          · rcases htracked point hpoint with hlt | ⟨heq, _, habove⟩
            · exact .inr ⟨by omega, hle⟩
            · exact .inr ⟨by omega, hle⟩
        have hheld : ∀ other, scan.lastTracking = some other →
            max (point.trackingRequestMv.toNat - 100) scan.sourceMinMv =
              max (other.trackingRequestMv.toNat - 100) scan.sourceMinMv := by
          intro other hother
          rw [Option.some.inj (hpoint.symm.trans hother)]
        exact
          { h with
            phased :=
              { operational := ⟨h.inRange_inside hpoint, hoperational.2⟩
                probe := hidle
                mode := hmode
                flat := hinside
                tracked := hheld } }

/-! ## Raising the request -/

theorem rapidProbeStepMv_eq (scan : SupplyScan) :
    scan.rapidProbeStepMv = 100 ∨ scan.rapidProbeStepMv = 500 := by
  unfold rapidProbeStepMv
  split
  · exact .inr rfl
  · split
    · exact .inl rfl
    · split
      · exact .inr rfl
      · split
        · exact .inl rfl
        · split
          · exact .inl rfl
          · exact .inr rfl

/-- A step of 100 mV or 500 mV stays on the grid and below the ceiling. -/
theorem Saved.raised (h : scan.Saved run) (hvoltage : scan.InRange scan.requestMv)
    (hbelow : scan.requestMv < scan.sourceMaxMv) {stepMv : ℕ}
    (hstep : stepMv = 100 ∨ stepMv = 500) :
    scan.InRange (min (saturatingAddU16 scan.requestMv stepMv) scan.sourceMaxMv) ∧
      scan.requestMv + 100 ≤ min (saturatingAddU16 scan.requestMv stepMv) scan.sourceMaxMv := by
  have hmost := h.most
  have hceiling := h.ceiling.step
  have hleast := hvoltage.least
  have hgrid := hvoltage.step
  rw [saturatingAddU16_of_le (by omega)]
  refine ⟨⟨?_, ?_, ?_⟩, ?_⟩ <;> omega

/-- The last tracking request is not above the request, or the equilibrium is about to be
scanned again and lies one step below it. -/
def ProbesAbove (scan : SupplyScan) (point : BoundaryPoint) : Prop :=
  point.trackingRequestMv.toNat ≤ scan.requestMv ∨
    point.trackingRequestMv.toNat = scan.requestMv + 100 ∧ scan.mode = .detailed ∧
      scan.flatCount = 0

theorem ProbesAbove.raised {point : BoundaryPoint} (hpoint : scan.ProbesAbove point) {nextMv : ℕ}
    (hleast : scan.sourceMinMv ≤ scan.requestMv) (hraised : scan.requestMv + 100 ≤ nextMv) :
    point.trackingRequestMv.toNat < nextMv ∨
      point.trackingRequestMv.toNat = nextMv ∧ scan.mode = .detailed ∧
        scan.sourceMinMv + 100 ≤ nextMv ∧ scan.flatCount = 0 := by
  rcases hpoint with hle | ⟨heq, hdetailed, hcount⟩
  · exact .inl (by omega)
  · by_cases hlt : point.trackingRequestMv.toNat < nextMv
    · exact .inl hlt
    · exact .inr ⟨by omega, hdetailed, by omega, hcount⟩

theorem Saved.probeNextVoltage (h : scan.Saved run) (hphase : scan.phase = .sweep)
    (hoperational : scan.Operational)
    (hprobe : scan.normalProbe = true → scan.mode = .detailed ∧ scan.requestMa = 3000)
    (hflat : scan.flatRequestMv = 0)
    (htracked : ∀ point, scan.lastTracking = some point → scan.ProbesAbove point) :
    (scan.probeNextVoltage input).Coherent run := by
  unfold SupplyScan.probeNextVoltage
  split
  case isTrue hceiling =>
    split
    case isTrue hrapid =>
      have hmode := (isRapid_iff scan).mp hrapid
      have hidle := normalProbe_eq_false hmode fun hnormal => (hprobe hnormal).1
      exact h.enterRapidWarmup ⟨⟨⟨hoperational, hidle⟩, hmode⟩, .inl hflat⟩
    case isFalse hdetailed =>
      exact h.beginEquilibrium hoperational (fun hnormal => (hprobe hnormal).1) (.inl hflat)
  case isFalse hbelow =>
    have hstep : (if scan.isRapid then scan.rapidProbeStepMv else 100) = 100 ∨
        (if scan.isRapid then scan.rapidProbeStepMv else 100) = 500 := by
      split
      · exact scan.rapidProbeStepMv_eq
      · exact .inl rfl
    obtain ⟨hnext, hraised⟩ := h.raised hoperational.1 (not_le.mp hbelow) hstep
    refine (h.change _ _).coherent hphase ?_
    exact
      { operational := ⟨hnext, hoperational.2⟩
        probe := hprobe
        flat := hflat
        tracked := fun point hpoint =>
          (htracked point hpoint).raised hoperational.1.least hraised }

/-! ## Retained observations -/

theorem Saved.toNat_request (h : scan.Saved run) {requestMv : ℕ}
    (hmost : requestMv ≤ scan.sourceMaxMv) : requestMv.toUInt16.toNat = requestMv := by
  have hceiling := h.most
  exact UInt16.toNat_ofNat_of_lt' (lt_of_le_of_lt (hmost.trans hceiling) (by decide))

theorem Saved.operationalPoint (h : scan.Saved run) (hoperational : scan.Operational)
    (hprobe : scan.normalProbe = true → scan.requestMa = 3000) (hflat : scan.FlatAllowed) :
    scan.boundary.OperationalPoint (scan.point input) := by
  obtain ⟨hvoltage, hcurrent⟩ := hoperational
  have hma : (scan.point input).requestCurrentMa.toNat = scan.requestMa :=
    UInt16.toNat_ofNat_of_lt' (lt_of_le_of_lt hcurrent.most (by decide))
  have hmv : (scan.point input).trackingRequestMv.toNat = scan.requestMv :=
    h.toNat_request hvoltage.most
  have hbracket : (scan.point input).flatRequestMv.toNat = 0 ∨
      scan.requestMv < (scan.point input).flatRequestMv.toNat ∧
        (scan.point input).flatRequestMv.toNat ≤ scan.sourceMaxMv := by
    show scan.flatRequestMv.toUInt16.toNat = 0 ∨
      scan.requestMv < scan.flatRequestMv.toUInt16.toNat ∧
        scan.flatRequestMv.toUInt16.toNat ≤ scan.sourceMaxMv
    rcases hflat with hzero | ⟨habove, hmost⟩
    · rw [hzero]
      exact .inl rfl
    · rw [h.toNat_request hmost]
      exact .inr ⟨habove, hmost⟩
  have htracking : (scan.point input).trackingOnly = true →
      (scan.point input).requestCurrentMa = 3000 := by
    intro htracking
    show scan.requestMa.toUInt16 = 3000
    rw [hprobe htracking]
    rfl
  exact
    { currentLeast := by rw [hma]; exact hcurrent.least
      currentMost := by rw [hma]; exact hcurrent.most
      currentStep := by rw [hma]; exact hcurrent.step
      least := by rw [hmv]; exact hvoltage.least
      most := by rw [hmv]; exact hvoltage.most
      step := by rw [hmv]; exact hvoltage.step
      flat := by rw [hmv]; exact hbracket
      trackingCurrent := htracking }

/-- The places and the bins may change, the rest of the scan does not. -/
theorem Saved.stored (h : scan.Saved run) {boundary : SupplyBoundary}
    {bins : Vector (Option BoundaryPoint) 20} (hheader : scan.boundary.SameHeader boundary)
    (hrecords : boundary.Records run.Observed)
    (hbins : ∀ point, some point ∈ bins.toList →
      scan.boundary.OperationalPoint point ∧ run.Observed point.reading) :
    { scan with boundary := boundary, normalBins := bins }.Saved run := by
  have hpoint {point : BoundaryPoint} (hvalid : scan.boundary.OperationalPoint point ∧
      run.Observed point.reading) : boundary.OperationalPoint point ∧ run.Observed point.reading :=
    ⟨hvalid.1.of_sameHeader hheader, hvalid.2⟩
  have htracking : ∀ point, scan.lastTracking = some point →
      boundary.OperationalPoint point ∧ run.Observed point.reading :=
    fun point hlast => hpoint (h.tracking point hlast)
  have hbins' : ∀ point, some point ∈ bins.toList →
      boundary.OperationalPoint point ∧ run.Observed point.reading :=
    fun point hmem => hpoint (hbins point hmem)
  have hsame := h.header.trans hheader
  obtain ⟨_, _, _, rfl⟩ := hheader
  exact
    { h with
      header := hsame
      tracking := htracking
      bins := hbins'
      records := hrecords }

theorem Saved.rebuildNormalPoints (h : scan.Saved run) :
    ∃ boundary, scan.rebuildNormalPoints = { scan with boundary := boundary } ∧
      scan.boundary.SameHeader boundary ∧ boundary.Records run.Observed := by
  have hheader := scan.boundary.sameHeader_keepEquilibria
  have hbins : ∀ point ∈ scan.normalBins.toList.reduceOption,
      scan.boundary.keepEquilibria.OperationalPoint point ∧ run.Observed point.reading := by
    intro point hpoint
    obtain ⟨hoperational, hobserved⟩ := h.bins point (List.reduceOption_mem_iff.mp hpoint)
    exact ⟨hoperational.of_sameHeader hheader, hobserved⟩
  obtain ⟨hstored, hrecords⟩ := h.records.keepEquilibria.foldl_retain hbins
  exact ⟨_, rfl, hheader.trans hstored, hrecords⟩

theorem Saved.retainNormalTracking (h : scan.Saved run)
    (hpoint : scan.boundary.OperationalPoint (scan.point input))
    (hobserved : run.Observed input.reading) :
    ∃ boundary bins, scan.retainNormalTracking input =
        { scan with boundary := boundary, normalBins := bins } ∧
      scan.boundary.SameHeader boundary ∧
      { scan with boundary := boundary, normalBins := bins }.Saved run := by
  unfold SupplyScan.retainNormalTracking
  split
  · exact ⟨scan.boundary, scan.normalBins, rfl, .refl _, h⟩
  case isFalse hcurrent =>
    have hma : scan.requestMa = 3000 := not_not.mp hcurrent
    have htracking : scan.boundary.OperationalPoint
        { scan.point input with trackingOnly := true } := by
      refine { hpoint with trackingCurrent := fun _ => ?_ }
      show scan.requestMa.toUInt16 = 3000
      rw [hma]
      rfl
    dsimp only
    split
    · have hbins : ∀ point, some point ∈ (scan.normalBins.set (normalBin input.temperatureCentiC)
          (some { scan.point input with trackingOnly := true })).toList →
          scan.boundary.OperationalPoint point ∧ run.Observed point.reading := by
        intro point hmem
        rw [Vector.toList_set] at hmem
        rcases List.mem_or_eq_of_mem_set hmem with hmem | heq
        · exact h.bins point hmem
        · obtain rfl := Option.some.inj heq
          exact ⟨htracking, hobserved⟩
      have hbinned := h.stored (.refl _) h.records hbins
      obtain ⟨boundary, heq, hheader, hrecords⟩ := hbinned.rebuildNormalPoints
      exact ⟨boundary, _, heq, hheader, hbinned.stored hheader hrecords hbinned.bins⟩
    · exact ⟨scan.boundary, scan.normalBins, rfl, .refl _, h⟩

end SupplyScan

end FluxPurr.Supply
