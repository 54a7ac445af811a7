import FluxPurr.Runs.Throughout
import FluxPurr.Thermal.TraceCompaction

/-!
# Runs of trace recording

A call is due when its observation can be recorded and something new has happened.  A due call
adds its sample, and compacts a full trace before; no other call changes the samples
(`record_of_due`, `samples_record_of_not_due`).

The ticks of a trace increase in every run, `lastSavedTick` is the tick of its last sample, and a
full trace never makes recording fail.  A run keeps the important samples in each of its
compactions exactly if each compaction finds a suitable trace (`recordsWell_throughout_iff`).
-/

namespace FluxPurr.Thermal

open FluxPurr.Memory FluxPurr.Runs
open RecordCall

/-! ## One call -/

namespace RecordCall

variable (job : CalibrationThermalPlantAutoJob) (call : RecordCall)

/-- The reading and the temperature that would be saved. -/
def observation : UInt16 × F32 :=
  thermalPlantTraceObservation (call.clocked job) call.rawRtdAdcMv call.latestTempC
    call.dutyPercent

/-- The observation and the clock are in range. -/
def Accepted : Prop :=
  (call.observation job).1 ≠ 0 ∧ (call.observation job).2.isFinite ∧ call.dutyPercent ≤ 100 ∧
    call.elapsedTicks ≤ thermalPlantSupplyMaxTicks

/-- The tick is a new one. -/
def IsLater : Prop := job.samples = [] ∨ job.lastSavedTick < call.elapsedTicks

def IsDue : Prop :=
  call.Accepted job ∧ call.IsLater job ∧
    shouldRecord (call.clocked job) (call.observation job).2 call.latestVinMv call.dutyPercent
      call.force

def sample : ThermalPlantTransientSample where
  elapsedTicks := call.elapsedTicks
  rawRtdAdcMv := (call.observation job).1
  heaterVoltage125mv := sampleVoltage125mv call.phase call.latestVinMv
  dutyPercent := call.dutyPercent

/-- The samples that a call finds a free slot after. -/
def retained : List ThermalPlantTransientSample :=
  if job.samples.length = thermalPlantTransientMaxSamples then compactTransientTrace job.samples
  else job.samples

instance : Decidable (call.Accepted job) := by unfold Accepted; infer_instance

instance : Decidable (call.IsLater job) := by unfold IsLater; infer_instance

instance : Decidable (call.IsDue job) := by unfold IsDue; infer_instance

variable {job call}

theorem length_retained_lt (h : job.samples.length ≤ thermalPlantTransientMaxSamples) :
    (retained job).length < thermalPlantTransientMaxSamples := by
  unfold retained
  split_ifs with hfull
  · have hle := @length_compactTransientTrace_le job.samples
    exact Nat.lt_of_le_of_lt hle (by decide)
  · exact Nat.lt_of_le_of_ne h hfull

theorem saveSample_eq (hlength : job.samples.length ≤ thermalPlantTransientMaxSamples)
    (hlater : job.samples = [] ∨ job.lastSavedTick < job.elapsedTicks) (rawRtdAdcMv : UInt16)
    (latestTempC : F32) (latestVinMv : UInt32) (dutyPercent : UInt8) :
    saveSample job rawRtdAdcMv latestTempC latestVinMv dutyPercent =
      ({ job with
          samples := retained job ++
            [{  elapsedTicks := job.elapsedTicks
                rawRtdAdcMv
                heaterVoltage125mv := sampleVoltage125mv job.phase latestVinMv
                dutyPercent }]
          lastSavedTempC := latestTempC
          lastSavedTick := job.elapsedTicks }, true) := by
  have hjob : (if job.samples.length = thermalPlantTransientMaxSamples then
        { job with samples := compactTransientTrace job.samples } else job) =
      { job with samples := retained job } := by
    unfold retained
    split_ifs <;> rfl
  have hroom : ¬ (thermalPlantTransientMaxSamples ≤ (retained job).length ∨
      retained job ≠ [] ∧ job.elapsedTicks ≤ job.lastSavedTick) := by
    rintro (hfull | ⟨hsome, hle⟩)
    · exact Nat.not_le.mpr (length_retained_lt hlength) hfull
    · rcases hlater with hempty | hlt
      · apply hsome
        rw [retained, hempty]
        rfl
      · exact UInt32.not_le.mpr hlt hle
  unfold saveSample
  rw [hjob]
  exact if_neg hroom

theorem not_isLater_iff :
    ¬ call.IsLater job ↔ job.samples ≠ [] ∧ call.elapsedTicks ≤ job.lastSavedTick := by
  rw [IsLater, not_or, UInt32.not_lt]

theorem not_accepted_iff :
    ¬ call.Accepted job ↔
      ((call.observation job).1 = 0 ∨ ¬ (call.observation job).2.isFinite ∨
        100 < call.dutyPercent) ∨ thermalPlantSupplyMaxTicks < call.elapsedTicks := by
  rw [Accepted, ← UInt8.not_le, ← UInt32.not_le]
  tauto

theorem record_eq : record job call = if ¬ call.Accepted job then (call.clocked job, false)
      else if ¬ call.IsDue job then (call.clocked job, true)
      else saveSample (call.clocked job) (call.observation job).1 (call.observation job).2
        call.latestVinMv call.dutyPercent := by
  have hrecord : record job call =
      if (call.observation job).1 = 0 ∨ ¬ (call.observation job).2.isFinite ∨
          100 < call.dutyPercent then (call.clocked job, false)
      else if thermalPlantSupplyMaxTicks < call.elapsedTicks then (call.clocked job, false)
      else if job.samples ≠ [] ∧ call.elapsedTicks ≤ job.lastSavedTick then
        (call.clocked job, true)
      else if ¬ shouldRecord (call.clocked job) (call.observation job).2 call.latestVinMv
          call.dutyPercent call.force then (call.clocked job, true)
      else saveSample (call.clocked job) (call.observation job).1 (call.observation job).2
        call.latestVinMv call.dutyPercent := rfl
  simp only [hrecord, ← ite_or, ← not_accepted_iff, ← not_isLater_iff]
  by_cases haccepted : call.Accepted job
  · simp only [haccepted, not_true_eq_false, if_false, IsDue, true_and, not_and_or]
  · simp only [haccepted, not_false_eq_true, if_true]

theorem record_of_due (hlength : job.samples.length ≤ thermalPlantTransientMaxSamples)
    (h : call.IsDue job) :
    record job call =
      ({ call.clocked job with
          samples := retained job ++ [call.sample job]
          lastSavedTempC := (call.observation job).2
          lastSavedTick := call.elapsedTicks }, true) := by
  rw [record_eq, if_neg (not_not.mpr h.1), if_neg (not_not.mpr h)]
  exact @saveSample_eq (call.clocked job) hlength h.2.1 _ _ _ _

theorem record_of_not_due (h : ¬ call.IsDue job) :
    record job call = (call.clocked job, decide (call.Accepted job)) := by
  rw [record_eq]
  by_cases haccepted : call.Accepted job
  · rw [if_neg (not_not.mpr haccepted), if_pos h, decide_eq_true haccepted]
  · rw [if_pos haccepted, decide_eq_false haccepted]

end RecordCall

/-! ## Every run -/

/-- The trace is in order of its ticks, fits, and ends when the last sample was saved. -/
structure Recorded (job : CalibrationThermalPlantAutoJob) : Prop where
  length : job.samples.length ≤ thermalPlantTransientMaxSamples
  increasing : Increasing job.samples
  lastTick : ∀ sample, job.samples.getLast? = some sample → sample.elapsedTicks = job.lastSavedTick

/-- A call does what recording promises: the ticks increase up to the last saved one, what can be
recorded is not refused, and a compaction keeps the important samples. -/
structure RecordsWell (job : CalibrationThermalPlantAutoJob) (call : RecordCall) : Prop where
  increasing : Increasing (record job call).1.samples
  lastTick : ∀ sample, (record job call).1.samples.getLast? = some sample →
    sample.elapsedTicks = (record job call).1.lastSavedTick
  accepts : call.Accepted job → (record job call).2 = true
  compacts : call.IsDue job → job.samples.length = thermalPlantTransientMaxSamples →
    ∃ kept sample, (record job call).1.samples = kept ++ [sample] ∧ KeepsImportant job.samples kept

/-- A call that compacts the trace finds a suitable one. -/
def CompactsSuitable (job : CalibrationThermalPlantAutoJob) (call : RecordCall) : Prop :=
  call.IsDue job → job.samples.length = thermalPlantTransientMaxSamples →
    ∃ first last, Suitable job.samples first last

def RecordCall.step (job : CalibrationThermalPlantAutoJob) (call : RecordCall) :
    Option CalibrationThermalPlantAutoJob := some (record job call).1

section

variable {job : CalibrationThermalPlantAutoJob} {call : RecordCall}

theorem recorded_new : Recorded {} where
  length := Nat.zero_le _
  increasing := List.Pairwise.nil
  lastTick := by
    intro sample h
    cases h

/-- Every sample of a trace is at most as late as its last one. -/
theorem Recorded.le_lastSavedTick (h : Recorded job) :
    ∀ sample ∈ job.samples, sample.elapsedTicks ≤ job.lastSavedTick := by
  intro sample hmem
  rcases List.eq_nil_or_concat' job.samples with hnil | ⟨front, last, hsamples⟩
  · rw [hnil] at hmem
    cases hmem
  · have hlast := h.lastTick last (by rw [hsamples, List.getLast?_concat])
    have hincreasing := h.increasing
    rw [hsamples] at hmem
    rw [hsamples, Increasing, List.pairwise_append] at hincreasing
    rcases List.mem_append.mp hmem with hfront | hsame
    · have hlt := hincreasing.2.2 sample hfront last (List.mem_singleton_self _)
      rw [← hlast]
      exact UInt32.le_of_lt hlt
    · obtain rfl := List.mem_singleton.mp hsame
      exact UInt32.le_of_eq hlast

theorem Recorded.retained_sublist : (retained job).Sublist job.samples := by
  unfold retained
  split_ifs
  · exact compactTransientTrace_sublist
  · exact .refl _

theorem Recorded.record (h : Recorded job) (call : RecordCall) : Recorded (record job call).1 := by
  by_cases hdue : call.IsDue job
  · rw [record_of_due h.length hdue]
    refine ⟨?_, ?_, ?_⟩
    · rw [List.length_append, List.length_singleton]
      exact length_retained_lt h.length
    · refine List.pairwise_append.mpr
        ⟨h.increasing.sublist Recorded.retained_sublist, List.pairwise_singleton _ _, ?_⟩
      intro earlier hearlier later hlater
      obtain rfl := List.mem_singleton.mp hlater
      have hmem := Recorded.retained_sublist.subset hearlier
      rcases hdue.2.1 with hempty | hlt
      · rw [hempty] at hmem
        cases hmem
      · exact UInt32.lt_of_le_of_lt (h.le_lastSavedTick earlier hmem) hlt
    · intro sample hlast
      rw [List.getLast?_append] at hlast
      obtain rfl := Option.some.inj hlast
      rfl
  · rw [record_of_not_due hdue]
    exact { h with }

/-- One call does what recording promises if and only if a compaction finds a suitable trace. -/
theorem Recorded.recordsWell_iff (h : Recorded job) :
    RecordsWell job call ↔ CompactsSuitable job call := by
  have hkeeps (hfull : job.samples.length = thermalPlantTransientMaxSamples) :
      KeepsImportant job.samples (retained job) ↔
        ∃ first last, Suitable job.samples first last := by
    rw [retained, if_pos hfull]
    exact keepsImportant_iff h.increasing (by rw [hfull]; decide)
  constructor
  · rintro hwell hdue hfull
    obtain ⟨kept, sample, hsamples, hkept⟩ := hwell.compacts hdue hfull
    rw [record_of_due h.length hdue] at hsamples
    obtain ⟨hretained, -⟩ := List.append_inj' hsamples rfl
    rw [← hkeeps hfull, hretained]
    exact hkept
  · intro hsuitable
    have hrecorded := h.record call
    refine ⟨hrecorded.increasing, hrecorded.lastTick, ?_, ?_⟩
    · intro haccepted
      by_cases hdue : call.IsDue job
      · rw [record_of_due h.length hdue]
      · rw [record_of_not_due hdue, decide_eq_true haccepted]
    · intro hdue hfull
      refine ⟨retained job, call.sample job, ?_, ?_⟩
      · rw [record_of_due h.length hdue]
      · exact (hkeeps hfull).mpr (hsuitable hdue hfull)

end

/-- In a run from a new job, every call does what recording promises if and only if every
compaction finds a suitable trace. -/
theorem recordsWell_throughout_iff (calls : List RecordCall) :
    Throughout step RecordsWell {} calls ↔
      Throughout step CompactsSuitable {} calls := by
  refine throughout_congr recorded_new (fun job call hrecorded => hrecorded.recordsWell_iff) ?_
  intro job call next hrecorded _ hnext
  obtain rfl := Option.some.inj hnext
  exact hrecorded.record call

/-! ## An overshoot -/

/-- The temperature rises until shortly after the heater is off. -/
def overshootHeight (index : ℕ) : ℕ := if index ≤ 65 then index else 130 - index

/-- A plate that warms by a degree every second, for two more samples after its heater is off, and
then cools.  Each call is four degrees after the one before. -/
def overshootCall (index : ℕ) : RecordCall where
  elapsedTicks := UInt32.ofNat (80 * index)
  phase := if index < 64 then .heating else .cooling
  phaseStartedTick := if index < 64 then 0 else 5120
  rawRtdAdcMv := UInt16.ofNat (1000 + 4 * overshootHeight index)
  latestTempC := F32.ofNat (25 + 4 * overshootHeight index)
  latestVinMv := 20000
  dutyPercent := if index < 64 then 100 else 0
  force := false

def overshootSample (index : ℕ) : ThermalPlantTransientSample where
  elapsedTicks := (overshootCall index).elapsedTicks
  rawRtdAdcMv := (overshootCall index).rawRtdAdcMv
  heaterVoltage125mv :=
    sampleVoltage125mv (overshootCall index).phase (overshootCall index).latestVinMv
  dutyPercent := (overshootCall index).dutyPercent

def overshootSamples (count : ℕ) : List ThermalPlantTransientSample :=
  (List.range count).map overshootSample

/-- The job after the first calls. -/
def overshootJob : ℕ → CalibrationThermalPlantAutoJob
  | 0 => {}
  | count + 1 =>
      { phase := (overshootCall count).phase
        elapsedTicks := (overshootCall count).elapsedTicks
        phaseStartedTick := (overshootCall count).phaseStartedTick
        lastSavedTempC := (overshootCall count).latestTempC
        lastSavedTick := (overshootCall count).elapsedTicks
        samples := overshootSamples (count + 1) }

theorem overshoot_observation : ∀ count < 129,
    (overshootCall count).observation (overshootJob count) =
      ((overshootCall count).rawRtdAdcMv, (overshootCall count).latestTempC) := by
  decide +kernel

theorem overshoot_due : ∀ count < 129, (overshootCall count).IsDue (overshootJob count) := by
  decide +kernel

theorem overshoot_stretch : Stretch (overshootSamples 128) 0 63 where
  first := by decide +kernel
  last := by decide +kernel

theorem overshoot_peak : ∀ index < 128,
    rawAt (overshootSamples 128) 65 ≤ rawAt (overshootSamples 128) index → index = 65 := by
  decide +kernel
theorem samples_overshootJob (count : ℕ) :
    (overshootJob count).samples = overshootSamples count := by
  cases count <;> rfl

theorem length_overshootSamples (count : ℕ) : (overshootSamples count).length = count := by
  rw [overshootSamples, List.length_map, List.length_range]

theorem record_overshoot {count : ℕ} (h : count < thermalPlantTransientMaxSamples) :
    (record (overshootJob count) (overshootCall count)).1 =
      overshootJob (count + 1) := by
  have hlength : (overshootJob count).samples.length = count := by
    rw [samples_overshootJob, length_overshootSamples]
  have hretained : retained (overshootJob count) = overshootSamples count := by
    rw [retained, hlength, if_neg (Nat.ne_of_lt h), samples_overshootJob]
  have hobservation := overshoot_observation count (Nat.lt_succ_of_lt h)
  have hsample : (overshootCall count).sample (overshootJob count) = overshootSample count := by
    rw [sample, hobservation]
    rfl
  have hsamples :
      overshootSamples (count + 1) = overshootSamples count ++ [overshootSample count] := by
    rw [overshootSamples, List.range_succ, List.map_append, List.map_singleton, overshootSamples]
  rw [record_of_due (hlength.trans_le h.le)
    (overshoot_due count (Nat.lt_succ_of_lt h)), hretained, hsample, hobservation, ← hsamples]
  rfl

theorem run_overshoot {count : ℕ} (h : count ≤ thermalPlantTransientMaxSamples) :
    ((List.range count).map overshootCall).foldlM step {} =
      some (overshootJob count) := by
  induction count with
  | zero => rfl
  | succ count ih =>
    rw [List.range_succ, List.map_append, List.foldlM_append, ih (Nat.le_of_succ_le h),
      Option.bind_eq_bind, Option.bind_some, List.map_singleton, List.foldlM_cons,
      step, record_overshoot h]
    rfl

theorem recorded_overshoot {count : ℕ} (h : count ≤ thermalPlantTransientMaxSamples) :
    Recorded (overshootJob count) := by
  induction count with
  | zero => exact recorded_new
  | succ count ih => exact record_overshoot h ▸ (ih (Nat.le_of_succ_le h)).record _

/-- The even places after the stretch miss the hottest sample. -/
theorem not_kept_overshoot : ¬ Kept (overshootSamples 128) 0 63 65 := by
  rintro (hzero | hstretch | ⟨slot, hslot, hat⟩)
  · cases hzero
  · have hle : 65 ≤ 63 := by
      rcases hstretch with hstop | ⟨slot, hslot, hat, -⟩
      · exact (Finset.mem_Icc.mp (stops_subset (Nat.zero_le _) hstop)).2
      · exact hat.symm.trans_le (evenIndex_le (Nat.zero_le _) hslot)
    exact absurd hle (by decide)
  · have hmiss : ∀ slot < 23, evenIndex 64 127 23 slot ≠ 65 := by decide
    have hslots : coolingSlots (overshootSamples 128) 63 = 23 := by
      rw [coolingSlots, length_overshootSamples]
      rfl
    rw [hslots] at hslot hat
    rw [length_overshootSamples] at hat
    exact hmiss slot hslot hat

/-- A plate that goes on warming after its heater is off makes a compaction lose its hottest
sample. -/
theorem not_recordsWell_throughout :
    ∃ calls : List RecordCall,
      (calls.Pairwise fun earlier later => earlier.elapsedTicks ≤ later.elapsedTicks) ∧
        ¬ Throughout step RecordsWell {} calls := by
  refine ⟨(List.range 129).map overshootCall, ?_, ?_⟩
  · rw [List.pairwise_map]
    refine List.pairwise_lt_range.imp_of_mem ?_
    intro earlier later hearlier hlater hlt
    rw [List.mem_range] at hearlier hlater
    change UInt32.ofNat (80 * earlier) ≤ UInt32.ofNat (80 * later)
    rw [UInt32.le_iff_toNat_le, UInt32.toNat_ofNat_of_lt' (by change _ < 4294967296; omega),
      UInt32.toNat_ofNat_of_lt' (by change _ < 4294967296; omega)]
    omega
  · intro hwell
    rw [show List.range 129 = List.range 128 ++ [128] from rfl, List.map_append] at hwell
    have hlast := hwell.holds_after (run_overshoot (Nat.le_refl _))
    obtain ⟨first, last, hsuitable⟩ :=
      (recorded_overshoot (Nat.le_refl _)).recordsWell_iff.mp hlast
        (overshoot_due 128 (by decide)) (by rw [samples_overshootJob, length_overshootSamples])
    rw [samples_overshootJob] at hsuitable
    obtain ⟨peak, hpeak, hkept⟩ := hsuitable.peakSlot
    obtain rfl : first = 0 :=
      Option.some.inj (hsuitable.stretch.first.symm.trans overshoot_stretch.first)
    obtain rfl : last = 63 :=
      Option.some.inj (hsuitable.stretch.last.symm.trans overshoot_stretch.last)
    have hlength := length_overshootSamples thermalPlantTransientMaxSamples
    obtain rfl : peak = 65 := by
      apply overshoot_peak peak (Nat.lt_of_lt_of_eq hpeak.1 hlength)
      exact hpeak.2 65 (Nat.lt_of_lt_of_eq (by decide) hlength.symm)
    exact not_kept_overshoot hkept

end FluxPurr.Thermal
