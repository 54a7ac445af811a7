import FluxPurr.Runs.Reaches
import FluxPurr.Supply.ScanSteps

/-!
# The request envelope of the supply scan

Whatever the samples, a running scan asks the source for a voltage of the operational range
and for at most 3 A; only the terminal probe goes above, to at most 21 V and within the power
of the source (`output_within_envelope`).  A scan that has ended repeats its last request,
which after a terminal probe is that of the probe: `terminal_request_outlives_the_probe` is
such a run.  The run must not contain a stage timeout of the terminal probe.
-/

namespace FluxPurr.Supply

open SupplyBoundary Runs

/-- What is known of the source when a scan starts. -/
structure ScanHeader (boundary : SupplyBoundary) : Prop where
  range : boundary.sourceMinMv < boundary.sourceMaxMv
  most : boundary.sourceMaxMv ≤ 21000
  leastStep : boundary.sourceMinMv % 100 = 0
  mostStep : boundary.sourceMaxMv % 100 = 0
  current : boundary.sourceMaxMa = 3000
  advertised : boundary.sourceMaxMv ≤ boundary.advertisedMaxMv
  power : boundary.sourcePowerLimitMw = 0 ∨
    boundary.sourceMaxMv.toNat * 3000 ≤ boundary.sourcePowerLimitMw.toNat * 1000

namespace SupplyScan

variable {Observed : Reading → Prop} {Allowed : ScanInput → Prop} {boundary : SupplyBoundary}
  {mode : ScanMode} {start scan : SupplyScan} {inputs : List ScanInput}

/-- One step: no terminal probe times out, and the sample has the property. -/
def Sampled (Allowed : ScanInput → Prop) (scan : SupplyScan) (input : ScanInput)
    (next : SupplyScan) : Prop :=
  ¬ scan.ProbeTimesOut input ∧ Allowed input ∧ next = scan.update input

theorem toNat_step {mv : UInt16} (h : mv % 100 = 0) : mv.toNat % 100 = 0 := by
  have hmod := congrArg UInt16.toNat h
  rwa [UInt16.toNat_mod] at hmod

theorem coherent_newWithMode (hheader : ScanHeader boundary)
    (hnew : newWithMode boundary mode = some start) :
    start.Coherent ⟨Observed, boundary, mode⟩ := by
  have hrange := UInt16.lt_iff_toNat_lt.mp hheader.range
  have hmost := UInt16.le_iff_toNat_le.mp hheader.most
  have hleastStep := toNat_step hheader.leastStep
  have hmostStep := toNat_step hheader.mostStep
  unfold newWithMode at hnew
  split at hnew
  · cases hnew
  · obtain rfl := Option.some.inj hnew
    have hceiling : VoltageAllowed boundary.sourceMinMv.toNat boundary.sourceMaxMv.toNat
        boundary.sourceMaxMv.toNat := ⟨hrange.le, le_rfl, hmostStep⟩
    have hfloor : VoltageAllowed boundary.sourceMinMv.toNat boundary.sourceMaxMv.toNat
        boundary.sourceMinMv.toNat := ⟨le_rfl, hrange.le, hleastStep⟩
    exact
      { header := ⟨false, _, 0, rfl⟩
        mode := rfl
        floor := hfloor
        ceiling := hceiling
        range := hrange
        most := hmost
        returnRequest := hfloor
        returnCurrent := .threeAmps _
        tracking := nofun
        bins := by simp
        records := ⟨Nat.zero_le _, by simp [recorded]⟩
        failed := nofun
        phased := { operational := ⟨hceiling, .threeAmps _⟩, probe := rfl } }

theorem coherent_of_reaches (hheader : ScanHeader boundary)
    (hnew : newWithMode boundary mode = some start)
    (hallowed : ∀ input, Allowed input → sampleIsInvalid input = false → Observed input.reading)
    (hrun : Reaches (Sampled Allowed) start inputs scan) :
    scan.Coherent ⟨Observed, boundary, mode⟩ := by
  refine @Reaches.invariant _ _ _ start (fun scan => scan.Coherent ⟨Observed, boundary, mode⟩)
    (coherent_newWithMode hheader hnew) ?_ _ _ hrun
  rintro before input after hbefore ⟨htimeout, hinput, rfl⟩
  exact hbefore.update htimeout (hallowed input hinput)

end SupplyScan

/-! ## The envelope -/

structure OperationalRequest (boundary : SupplyBoundary) (mode : ScanMode) (output : ScanOutput) :
    Prop where
  least : boundary.sourceMinMv.toNat ≤ output.requestMv
  most : output.requestMv ≤ boundary.sourceMaxMv.toNat
  current : output.requestMa ≤ 3000
  rapid : mode = .rapid → output.requestMa = 3000

/-- The current of a probe is that of the power limit: it is at most 3 A when the source
could not deliver 3.05 A at the voltage of the probe. -/
structure ProbeRequest (boundary : SupplyBoundary) (output : ScanOutput) : Prop where
  voltage : output.requestMv ≤ min boundary.advertisedMaxMv.toNat 21000
  power : output.requestMv * output.requestMa ≤ boundary.sourcePowerLimitMw.toNat * 1000
  current : boundary.sourcePowerLimitMw.toNat * 1000 < 3050 * output.requestMv →
    output.requestMa ≤ 3000

/-- The requests of a scan of `boundary`. -/
structure WithinEnvelope (boundary : SupplyBoundary) (mode : ScanMode) (scan : SupplyScan) :
    Prop where
  running : scan.phase ≠ .terminalProbe → scan.phase ≠ .complete → scan.phase ≠ .failed →
    OperationalRequest boundary mode scan.output
  probing : scan.phase = .terminalProbe → mode = .rapid ∧ ProbeRequest boundary scan.output
  ended : scan.phase = .complete ∨ scan.phase = .failed →
    OperationalRequest boundary mode scan.output ∨ mode = .rapid ∧ ProbeRequest boundary scan.output

/-- The current of a probe keeps it within the power limit, also where the product of the
source wraps. -/
theorem terminalTrackingCurrentMa_power {limitMw : UInt32} {mv ma : UInt16}
    (h : terminalTrackingCurrentMa limitMw mv = some ma) :
    ma.toNat ≤ limitMw.toNat * 1000 / mv.toNat / 50 * 50 := by
  unfold terminalTrackingCurrentMa at h
  split at h
  · cases h
  · dsimp only at h
    split at h
    · obtain rfl := Option.some.inj h
      have hproduct : (limitMw * 1000).toNat ≤ limitMw.toNat * 1000 := by
        rw [UInt32.toNat_mul]
        exact Nat.mod_le _ _
      have hquotient : (limitMw * 1000 / mv.toUInt32).toUInt16.toNat ≤
          limitMw.toNat * 1000 / mv.toNat := by
        rw [UInt32.toNat_toUInt16, UInt32.toNat_div, UInt16.toNat_toUInt32]
        exact (Nat.mod_le _ _).trans (Nat.div_le_div_right hproduct)
      generalize (limitMw * 1000 / mv.toUInt32).toUInt16 = quotient at hquotient ⊢
      have hround : (quotient / 50 * 50).toNat = quotient.toNat / 50 * 50 := by
        have hlt := quotient.toNat_lt
        rw [UInt16.toNat_mul, UInt16.toNat_div]
        show quotient.toNat / 50 * 50 % 2 ^ 16 = quotient.toNat / 50 * 50
        omega
      rw [hround]
      exact Nat.mul_le_mul_right _ (Nat.div_le_div_right hquotient)
    · cases h

namespace SupplyScan

variable {run : ScanRun} {scan : SupplyScan}

theorem Saved.operationalRequest (h : scan.Saved run) (hoperational : scan.Operational) :
    OperationalRequest run.source run.mode scan.output := by
  obtain ⟨hvoltage, hcurrent⟩ := hoperational
  have hmode := h.mode
  have hleast : scan.sourceMinMv = run.source.sourceMinMv.toNat :=
    congrArg UInt16.toNat h.header.sourceMinMv
  have hmost : scan.sourceMaxMv = run.source.sourceMaxMv.toNat :=
    congrArg UInt16.toNat h.header.sourceMaxMv
  exact
    { least := hleast ▸ hvoltage.least
      most := hmost ▸ hvoltage.most
      current := hcurrent.most
      rapid := fun hrapid => hcurrent.rapid (hmode.trans hrapid) }

theorem Saved.probeRequest (h : scan.Saved run) (hterminal : scan.AtTerminal) :
    run.mode = .rapid ∧ ProbeRequest run.source scan.output := by
  obtain ⟨hrapid, htarget⟩ := hterminal
  obtain ⟨targetMv, targetMa, hmv, hma, _, hadvertised, hmost, _, hcurrent⟩ :=
    terminalProbeTarget_spec htarget
  rw [h.header.advertisedMaxMv] at hadvertised
  rw [h.header.sourcePowerLimitMw] at hcurrent
  have hpower := terminalTrackingCurrentMa_power hcurrent
  have hadvertised' := UInt16.le_iff_toNat_le.mp hadvertised
  have hmost' : targetMv.toNat ≤ 21000 := UInt16.le_iff_toNat_le.mp hmost
  refine ⟨h.mode.symm.trans hrapid, ?_, ?_, ?_⟩ <;> simp only [output, hmv, hma]
  · omega
  · calc targetMv.toNat * targetMa.toNat
        ≤ targetMv.toNat * (run.source.sourcePowerLimitMw.toNat * 1000 / targetMv.toNat) :=
          Nat.mul_le_mul_left _ (hpower.trans (Nat.div_mul_le_self _ _))
      _ ≤ run.source.sourcePowerLimitMw.toNat * 1000 := Nat.mul_div_le _ _
  · intro hlimit
    have hquotient : run.source.sourcePowerLimitMw.toNat * 1000 / targetMv.toNat < 3050 :=
      Nat.div_lt_of_lt_mul (by omega)
    omega

theorem Coherent.withinEnvelope (h : scan.Coherent run) :
    WithinEnvelope run.source run.mode scan := by
  constructor
  · intro hprobe hcomplete hfailed
    exact h.operationalRequest (h.operational ⟨hcomplete, hfailed⟩ hprobe)
  · intro hphase
    have hprobing : scan.Probing := h.finds hphase
    exact h.probeRequest hprobing.request
  · intro _
    rcases h.request with hoperational | hterminal
    · exact .inl (h.operationalRequest hoperational)
    · exact .inr (h.probeRequest hterminal)

/-! ### A scan that ends after its terminal probe -/

/-- A 60 W source with a narrow range below the advertised 21 V. -/
def narrowSource : SupplyBoundary where
  adc := { dividerSupplyMv := 3300 }
  sourceMinMv := 19900
  sourceMaxMv := 20000
  sourceMaxMa := 3000
  sourcePowerLimitMw := 60000
  advertisedMinMv := 3300
  advertisedMaxMv := 21000

def narrowStart : SupplyScan := (newWithMode narrowSource .rapid).get rfl

def sampleAt (nowMs : UInt32) (temperatureCentiC : ℤ) (physicalPercent : ℕ) (vinMv : UInt16) :
    ScanInput where
  nowMs
  temperatureCentiC
  wifiStarted := false
  confirmed := true
  physicalPercent
  rtdCode := 1000
  rtdMv := 1000
  vinCode := 2000
  vinMv

/-- The plate warms at the ceiling until the terminal probe begins. -/
def samplesToProbe : List ScanInput :=
  [sampleAt 1000 2500 0 2000, sampleAt 2000 2500 0 2000, sampleAt 3000 2500 0 2000,
    sampleAt 4000 2500 100 2000, sampleAt 5000 2500 100 2000, sampleAt 6000 12000 100 2000,
    sampleAt 7000 21000 100 2000, sampleAt 8000 21000 100 2000]

/-- The probe tracks twice, and the scan is complete. -/
def samplesToEnd : List ScanInput :=
  samplesToProbe ++ [sampleAt 9000 21000 100 2100, sampleAt 10000 21000 100 2100]

/-- Whatever the samples, as long as no terminal probe times out. -/
theorem requests_within_envelope {boundary : SupplyBoundary} {mode : ScanMode}
    {start : SupplyScan} {inputs : List ScanInput} (hheader : ScanHeader boundary)
    (hnew : newWithMode boundary mode = some start)
    (hrun : Reaches (Sampled fun _ => True) start inputs scan) :
    WithinEnvelope boundary mode scan := by
  have hcoherent : scan.Coherent ⟨fun _ => True, boundary, mode⟩ :=
    coherent_of_reaches hheader hnew (fun _ _ _ => trivial) hrun
  exact hcoherent.withinEnvelope

theorem sampled_update {scan : SupplyScan} {input : ScanInput}
    (h : scan.stageTimedOut input = false) :
    Sampled (fun _ => True) scan input (scan.update input) := by
  refine ⟨?_, trivial, rfl⟩
  intro hprobe
  rw [hprobe.timeout] at h
  cases h

/-- The narrow source, up to its terminal probe. -/
theorem requests_within_envelope_narrow :
    WithinEnvelope narrowSource .rapid (samplesToProbe.foldl update narrowStart) :=
  requests_within_envelope
    ⟨by decide, by decide, by decide, by decide, by decide, by decide, by decide⟩ rfl
    ((((((((Reaches.refl.step (sampled_update (by decide +kernel))).step
      (sampled_update (by decide +kernel))).step (sampled_update (by decide +kernel))).step
      (sampled_update (by decide +kernel))).step (sampled_update (by decide +kernel))).step
      (sampled_update (by decide +kernel))).step (sampled_update (by decide +kernel))).step
      (sampled_update (by decide +kernel)) : Reaches _ narrowStart samplesToProbe _)

/-- A complete scan keeps asking for the 21 V of its probe, and a probe of a strong source asks
for more than 3 A. -/
theorem requests_leave_operational_range :
    (¬ ∀ (boundary : SupplyBoundary) (mode : ScanMode) (start : SupplyScan)
      (inputs : List ScanInput), ScanHeader boundary → newWithMode boundary mode = some start →
        inputs.Pairwise (fun earlier later => earlier.nowMs ≤ later.nowMs) →
        (inputs.foldl update start).phase ≠ .terminalProbe →
        OperationalRequest boundary mode (inputs.foldl update start).output) ∧
    ¬ ∀ (boundary : SupplyBoundary) (mode : ScanMode) (start : SupplyScan)
      (inputs : List ScanInput), ScanHeader boundary → newWithMode boundary mode = some start →
        inputs.Pairwise (fun earlier later => earlier.nowMs ≤ later.nowMs) →
        (inputs.foldl update start).phase = .terminalProbe →
        (inputs.foldl update start).output.requestMa ≤ 3000 := by
  constructor
  · intro h
    have hend := h narrowSource .rapid _ samplesToEnd
      ⟨by decide, by decide, by decide, by decide, by decide, by decide, by decide⟩ rfl (by decide)
      (by decide +kernel)
    exact absurd (hend.rapid rfl) (by decide +kernel)
  · intro h
    have hprobe := h { narrowSource with sourcePowerLimitMw := 100000 } .rapid _ samplesToProbe
      ⟨by decide, by decide, by decide, by decide, by decide, by decide, by decide⟩ rfl (by decide)
      (by decide +kernel)
    exact absurd hprobe (by decide +kernel)

end SupplyScan

end FluxPurr.Supply
