import FluxPurr.Memory.LegacyFit
import FluxPurr.Memory.LegacyParts

/-!
# The calibration after a legacy record

The calibration of a record decoded in one go (`AdcDecode.write`, then `finish`) and
the one left behind when every element is finished on its own (`AdcDecode.restart`)
are both determined by the last writers of their parts.  Comparing these part by
part gives the exact condition `CalibrationSurvives` under which they agree.

What goes wrong otherwise: references or targets that come alone replace all samples
by none, a legacy element that comes alone replaces the slots and selects slot `A`,
and a draft that comes alone is forgotten.
-/

namespace FluxPurr.Memory

open FluxPurr.Wire
open AdcWrite
open AdcCalibrationConfig

/-! ## What a calibration element writes -/

namespace AdcWrite

def samples? : AdcWrite → Option AdcCalibrationConfig
  | .samples decoded => some decoded
  | _ => none

def draftSamples? : AdcWrite → Option AdcCalibrationConfig
  | .draftSamples decoded => some decoded
  | _ => none

/-- The elements of the legacy calibration, with their samples. -/
def legacy? : AdcWrite → Option (Option AdcCalibrationConfig)
  | .samples decoded => some (some decoded)
  | .references _ | .targets _ => some none
  | _ => none

def draft? : AdcWrite → Option Unit
  | .draftSamples _ | .draftReferences _ | .draftTargets _ => some ()
  | _ => none

def slots? : AdcWrite → Option SlotPair
  | .slots value => some (decodeAdcCalibrationSlots value {}).slotPair
  | _ => none

def activeSlots? : AdcWrite → Option (AdcCalibrationSlotId × AdcCalibrationSlotId)
  | .activeSlots value => some (decodeAdcCalibrationActiveSlots value {}).activeSlotPair
  | _ => none

end AdcWrite

/-! ## All elements in one state -/

namespace AdcDecode

/-- The calibration parts after all elements. -/
def run (writes : List AdcWrite) : AdcDecode := writes.foldl write {}

variable (writes : List AdcWrite)

theorem slotPair_run : (run writes).config.slotPair = (lastSome slots? writes).getD ({}, {}) := by
  refine foldl_lastSome write (fun decode : AdcDecode => decode.config.slotPair)
    slots? ?_ writes {}
  intro decode write
  cases write <;> rfl

theorem activeSlotPair_run :
    (run writes).config.activeSlotPair =
      (lastSome activeSlots? writes).getD (.a, .a) := by
  refine foldl_lastSome write (fun decode : AdcDecode => decode.config.activeSlotPair)
    activeSlots? ?_
    writes {}
  intro decode write
  cases write <;> rfl

theorem points_run : (run writes).config.points = ((lastSome samples? writes).getD {}).points := by
  have hrun := foldl_lastSome write (fun decode : AdcDecode => decode.config.points)
    (fun written : AdcWrite => written.samples?.map points) (by
      intro decode write
      cases write with
      | references value => exact points_references value decode.config
      | targets value => exact points_targets value decode.config
      | _ => rfl) writes {}
  rw [lastSome_map] at hrun
  exact hrun.trans (Option.getD_map points _ _)

theorem points_legacyDraft_run :
    (run writes).legacyDraft.points =
      ((lastSome draftSamples? writes).getD {}).points := by
  have hrun := foldl_lastSome write (fun decode : AdcDecode => decode.legacyDraft.points)
    (fun written : AdcWrite => written.draftSamples?.map points) (by
      intro decode write
      cases write with
      | draftReferences value => exact points_references value decode.legacyDraft
      | draftTargets value => exact points_targets value decode.legacyDraft
      | _ => rfl) writes {}
  rw [lastSome_map] at hrun
  exact hrun.trans (Option.getD_map points _ _)

/-- A flag of the state tells whether an element of some kind was there. -/
theorem flag_run {α : Type*} (flag : AdcDecode → Bool) (kind : AdcWrite → Option α)
    (hstart : flag {} = false)
    (h : ∀ decode written, flag (write decode written) = ((kind written).isSome || flag decode)) :
    flag (run writes) = (lastSome kind writes).isSome := by
  have hrun := foldl_lastSome write flag (fun write => (kind write).map fun _ => true)
    (by
      intro decode written
      rw [h]
      cases kind written <;> rfl) writes {}
  rw [lastSome_map, hstart] at hrun
  refine hrun.trans ?_
  cases lastSome kind writes <;> rfl

theorem sawSlots_run : (run writes).sawSlots = (lastSome slots? writes).isSome := by
  refine flag_run writes sawSlots slots? rfl ?_
  intro decode written
  cases written <;> rfl

theorem sawActiveSlots_run :
    (run writes).sawActiveSlots = (lastSome activeSlots? writes).isSome := by
  refine flag_run writes sawActiveSlots activeSlots? rfl ?_
  intro decode written
  cases written <;> rfl

theorem sawLegacyActive_run : (run writes).sawLegacyActive = (lastSome legacy? writes).isSome := by
  refine flag_run writes sawLegacyActive legacy? rfl ?_
  intro decode written
  cases written <;> rfl

theorem sawLegacyDraft_run : (run writes).sawLegacyDraft = (lastSome draft? writes).isSome := by
  refine flag_run writes sawLegacyDraft draft? rfl ?_
  intro decode written
  cases written <;> rfl

theorem samplePair_legacyActive_run :
    (run writes).legacyActive.samplePair = (run writes).config.samplePair := by
  induction writes using List.reverseRecOn with
  | nil => rfl
  | append_singleton writes written ih =>
    have hrtd := congrArg Prod.fst ih
    have hvin := congrArg Prod.snd ih
    simp only [samplePair] at hrtd hvin
    rw [run, List.foldl_append, List.foldl_cons, List.foldl_nil, ← run]
    cases written <;>
      simp [write, samplePair, hrtd, hvin, decodeAdcCalibrationReferences,
        decodeAdcCalibrationTargets, decodeAdcCalibrationSlots,
        decodeAdcCalibrationActiveSlots, ConfigDecodeState.withSamplesOf]

/-- Samples that nothing annotates later are the decoded ones. -/
theorem samplePair_run_of_legacy {decoded : AdcCalibrationConfig}
    (h : lastSome legacy? writes = some (some decoded)) :
    (run writes).config.samplePair = decoded.samplePair := by
  induction writes using List.reverseRecOn with
  | nil => cases h
  | append_singleton writes written ih =>
    rw [lastSome_append_singleton] at h
    rw [run, List.foldl_append, List.foldl_cons, List.foldl_nil, ← run]
    cases written with
    | samples value =>
      obtain rfl : value = decoded := by simpa [legacy?] using h
      rfl
    | references value => simp [legacy?] at h
    | targets value => simp [legacy?] at h
    | draftSamples value => exact ih (by simpa [legacy?] using h)
    | draftReferences value => exact ih (by simpa [legacy?] using h)
    | draftTargets value => exact ih (by simpa [legacy?] using h)
    | slots value => exact ih (by simpa [legacy?] using h)
    | activeSlots value => exact ih (by simpa [legacy?] using h)

/-- A legacy calibration without any of the present slot elements is migrated. -/
def Migrates (writes : List AdcWrite) : Prop :=
  lastSome legacy? writes ≠ none ∧ lastSome slots? writes = none ∧
    lastSome activeSlots? writes = none

theorem migrates_iff :
    Migrates writes ↔ (run writes).sawLegacyActive = true ∧ ¬ (run writes).sawSlots = true ∧
      ¬ (run writes).sawActiveSlots = true := by
  rw [sawLegacyActive_run, sawSlots_run, sawActiveSlots_run, Migrates]
  simp [Option.isSome_iff_ne_none]

theorem finish_of_migrates (h : Migrates writes) :
    (run writes).finish =
      migrateLegacyAdcCalibration (run writes).config (run writes).legacyActive
        (if (run writes).sawLegacyDraft then some (run writes).legacyDraft else none) :=
  if_pos ((migrates_iff writes).mp h)

theorem finish_of_not_migrates (h : ¬ Migrates writes) :
    (run writes).finish = backfillNewAdcCalibrationDefaults (run writes).config ∨
      (run writes).finish = (run writes).config := by
  have hfinish : (run writes).finish =
      if (run writes).sawLegacyActive ∧
          (¬ (run writes).sawSlots ∨ ¬ (run writes).sawActiveSlots) then
        backfillNewAdcCalibrationDefaults (run writes).config
      else (run writes).config := if_neg (mt (migrates_iff writes).mpr h)
  rw [hfinish]
  split_ifs
  · exact Or.inl rfl
  · exact Or.inr rfl

theorem samplePair_finish : (run writes).finish.samplePair = (run writes).config.samplePair := by
  by_cases h : Migrates writes
  · rw [finish_of_migrates writes h]
    exact samplePair_legacyActive_run writes
  · rcases finish_of_not_migrates writes h with hfinish | hfinish
    · rw [hfinish]
      rfl
    · rw [hfinish]

theorem activeSlotPair_finish :
    (run writes).finish.activeSlotPair =
      (lastSome activeSlots? writes).getD (.a, .a) := by
  by_cases h : Migrates writes
  · rw [finish_of_migrates writes h, h.2.2]
    rfl
  · rw [← activeSlotPair_run]
    rcases finish_of_not_migrates writes h with hfinish | hfinish
    · rw [hfinish]
      rfl
    · rw [hfinish]

/-- The fits that migration puts into slot `B`. -/
def draftFits (writes : List AdcWrite) : AdcCalibrationSlotFit × AdcCalibrationSlotFit :=
  if (lastSome draft? writes).isSome then
    legacyFits ((lastSome draftSamples? writes).getD {})
  else ({}, {})

theorem points_legacyActive_run :
    (run writes).legacyActive.points = ((lastSome samples? writes).getD {}).points := by
  have hsame := samplePair_legacyActive_run writes
  have hrtd : (run writes).legacyActive.rtd.samples = (run writes).config.rtd.samples :=
    congrArg Prod.fst hsame
  have hvin : (run writes).legacyActive.vin.samples = (run writes).config.vin.samples :=
    congrArg Prod.snd hsame
  rw [← points_run, points, points, hrtd, hvin]

theorem slotPair_finish_of_migrates (h : Migrates writes) :
    (run writes).finish.slotPair =
      slotsOfFits (legacyFits ((lastSome samples? writes).getD {}))
        (draftFits writes) := by
  rw [finish_of_migrates writes h, draftFits, ← legacyFits_congr (points_legacyActive_run writes),
    ← legacyFits_congr (points_legacyDraft_run writes), sawLegacyDraft_run]
  cases (lastSome draft? writes).isSome <;> rfl

/-- Otherwise the last slots that were written stay, up to backfilling. -/
theorem same_slotPair_finish (h : ¬ Migrates writes) (left : SlotPair) :
    left.Same (run writes).finish.slotPair.sanitize ↔
      left.Same ((lastSome slots? writes).getD ({}, {})).sanitize := by
  rw [← slotPair_run]
  rcases finish_of_not_migrates writes h with hfinish | hfinish
  · rw [hfinish]
    exact SlotPair.same_sanitize_backfill left (run writes).config.slotPair
  · rw [hfinish]

/-! ## Every element in a state of its own -/

/-- The calibration after an element that is applied and finished alone. -/
def restart (config : AdcCalibrationConfig) (written : AdcWrite) : AdcCalibrationConfig :=
  (write { config := config } written).finish

def runRestarting (writes : List AdcWrite) : AdcCalibrationConfig := writes.foldl restart {}

theorem annotate_empty (annotate : Fin adcCalibrationMaxSamples → AdcCalibrationSample →
    AdcCalibrationSample) :
    (Vector.ofFn fun index =>
      (getElem (Vector.replicate adcCalibrationMaxSamples (none : Option AdcCalibrationSample))
        index index.isLt).map (annotate index)) =
      Vector.replicate adcCalibrationMaxSamples none := by
  ext i hi : 1
  simp

theorem references_empty (value : List UInt8) : decodeAdcCalibrationReferences value {} = {} := by
  have hrtd := annotate_empty fun index => withRtdReference (readI16 value (2 * index))
  have hvin := annotate_empty fun index =>
    withVinReference (readI16 value (2 * adcCalibrationMaxSamples + 2 * index))
  simp only [decodeAdcCalibrationReferences, hrtd, hvin]

theorem targets_empty (value : List UInt8) : decodeAdcCalibrationTargets value {} = {} := by
  have hrtd := annotate_empty fun index => withTarget (readU16 value (2 * index))
  simp only [decodeAdcCalibrationTargets, hrtd]

theorem restart_legacy {written : AdcWrite} {decoded : Option AdcCalibrationConfig}
    (h : written.legacy? = some decoded) (config : AdcCalibrationConfig) :
    restart config written =
      migrateLegacyAdcCalibration config (decoded.getD {}) none := by
  cases written with
  | samples value =>
    obtain rfl : some value = decoded := by simpa [legacy?] using h
    rfl
  | references value =>
    obtain rfl : none = decoded := by simpa [legacy?] using h
    have hempty := references_empty value
    simp only [restart, write, hempty]
    rfl
  | targets value =>
    obtain rfl : none = decoded := by simpa [legacy?] using h
    have hempty := targets_empty value
    simp only [restart, write, hempty]
    rfl
  | _ => cases h

theorem slotPair_runRestarting :
    (runRestarting writes).slotPair =
      ((lastEither slots? legacy? writes).map
        (Sum.elim id fun decoded => migratedSlots (decoded.getD {}))).getD ({}, {}) := by
  rw [← lastSome_or]
  refine foldl_lastSome restart slotPair _ ?_ writes {}
  intro config written
  cases hlegacy : written.legacy? with
  | some decoded =>
    rw [restart_legacy hlegacy]
    cases written <;> first | rfl | cases hlegacy
  | none => cases written <;> first | rfl | cases hlegacy

theorem activeSlotPair_runRestarting :
    (runRestarting writes).activeSlotPair =
      ((lastEither activeSlots? legacy? writes).map
        (Sum.elim id fun _ => (.a, .a))).getD (.a, .a) := by
  rw [← lastSome_or]
  refine foldl_lastSome restart activeSlotPair _ ?_ writes {}
  intro config written
  cases hlegacy : written.legacy? with
  | some decoded =>
    rw [restart_legacy hlegacy]
    cases written <;> first | rfl | cases hlegacy
  | none => cases written <;> first | rfl | cases hlegacy

theorem samplePair_runRestarting :
    (runRestarting writes).samplePair =
      ((lastSome legacy? writes).getD none |>.getD {}).samplePair := by
  have hrun := foldl_lastSome restart samplePair
    (fun written => written.legacy?.map fun decoded => (decoded.getD {}).samplePair) (by
      intro config written
      cases hlegacy : written.legacy? with
      | some decoded =>
        rw [restart_legacy hlegacy]
        rfl
      | none => cases written <;> first | rfl | cases hlegacy) writes {}
  rw [lastSome_map] at hrun
  refine hrun.trans ?_
  cases lastSome legacy? writes <;> rfl

end AdcDecode

/-! ## When the two agree -/

/-- The fits that slot `B` has without a draft. -/
def DefaultFits (fits : AdcCalibrationSlotFit × AdcCalibrationSlotFit) : Prop :=
  ({} : AdcCalibrationSlotFit).Same (sanitizeChannelSlotFit fits.1) ∧
    ({} : AdcCalibrationSlotFit).Same (sanitizeChannelSlotFit fits.2)

/-- The condition under which nothing of the calibration is lost when every element is
finished on its own. -/
structure CalibrationSurvives (writes : List AdcWrite) : Prop where
  /-- The last legacy element holds the samples, or there are none to lose. -/
  samples : lastSome legacy? writes = some none →
    ∀ decoded, lastSome samples? writes = some decoded → decoded.presentPair = ([], [])
  /-- Without slot elements a draft must not have given slot `B` a fit of its own. -/
  draft : AdcDecode.Migrates writes → DefaultFits (AdcDecode.draftFits writes)
  /-- With slot elements, a later legacy element must not have changed the slots. -/
  slots : ¬ AdcDecode.Migrates writes → ∀ decoded,
    lastEither slots? legacy? writes = some (.inr decoded) →
      (migratedSlots (decoded.getD {})).sanitize.Same
        ((lastSome slots? writes).getD ({}, {})).sanitize
  /-- A legacy element after the last selection selects slot `A`. -/
  active : ∀ decoded,
    lastEither activeSlots? legacy? writes = some (.inr decoded) →
      (lastSome activeSlots? writes).getD (.a, .a) = (.a, .a)

theorem presentPair_eq_of_samplePair_eq {left right : AdcCalibrationConfig}
    (h : left.samplePair = right.samplePair) : left.presentPair = right.presentPair := by
  have hrtd : left.rtd.samples = right.rtd.samples := congrArg Prod.fst h
  have hvin : left.vin.samples = right.vin.samples := congrArg Prod.snd h
  rw [presentPair, presentPair, hrtd, hvin]

theorem samplePair_sanitize_eq_iff (left right : AdcCalibrationConfig) :
    (sanitizeAdcCalibration left).samplePair = (sanitizeAdcCalibration right).samplePair ↔
      left.presentPair = right.presentPair := by
  have hpack : ∀ left right : AdcSamples,
      packSlots adcCalibrationMaxSamples (present left) =
        packSlots adcCalibrationMaxSamples (present right) ↔ present left = present right := by
    intro left right
    constructor
    · intro h
      rw [← present_packSlots (length_present_le left), h,
        present_packSlots (length_present_le right)]
    · exact fun h => by rw [h]
  calc (sanitizeAdcCalibration left).samplePair = (sanitizeAdcCalibration right).samplePair
      ↔ packSlots adcCalibrationMaxSamples (present left.rtd.samples) =
            packSlots adcCalibrationMaxSamples (present right.rtd.samples) ∧
          packSlots adcCalibrationMaxSamples (present left.vin.samples) =
            packSlots adcCalibrationMaxSamples (present right.vin.samples) := Prod.mk_inj
    _ ↔ present left.rtd.samples = present right.rtd.samples ∧
          present left.vin.samples = present right.vin.samples := and_congr (hpack _ _) (hpack _ _)
    _ ↔ left.presentPair = right.presentPair := Prod.mk_inj.symm

theorem presentPair_eq_nil_iff (config : AdcCalibrationConfig) :
    config.presentPair = ([], []) ↔ config.points = ([], []) := by
  simp [presentPair, points, samplePoints, Prod.ext_iff]

namespace AdcDecode

variable (writes : List AdcWrite)

theorem lastSome_samples_of_legacy (h : lastSome legacy? writes = none) :
    lastSome samples? writes = none := by
  refine lastSome_eq_none_iff.mpr ?_
  intro written hmem
  have hnone := lastSome_eq_none_iff.mp h written hmem
  cases written <;> first | rfl | cases hnone

theorem presentPair_run_eq_nil_iff :
    (run writes).config.presentPair = ([], []) ↔
      ∀ decoded, lastSome samples? writes = some decoded →
        decoded.presentPair = ([], []) := by
  rw [presentPair_eq_nil_iff, points_run]
  cases h : lastSome samples? writes with
  | none =>
    simp only [Option.getD_none, reduceCtorEq, false_imp_iff, implies_true, iff_true]
    decide
  | some decoded =>
    rw [Option.getD_some, ← presentPair_eq_nil_iff]
    constructor
    · rintro hempty other ⟨⟩
      exact hempty
    · exact fun hempty => hempty decoded rfl

theorem samples_agree_iff :
    (runRestarting writes).presentPair = (run writes).config.presentPair ↔
      (lastSome legacy? writes = some none →
        ∀ decoded, lastSome samples? writes = some decoded →
          decoded.presentPair = ([], [])) := by
  have hrestart := presentPair_eq_of_samplePair_eq (samplePair_runRestarting writes)
  have hempty : ({} : AdcCalibrationConfig).presentPair = ([], []) := by decide
  rw [hrestart, ← presentPair_run_eq_nil_iff]
  cases hlegacy : lastSome legacy? writes with
  | none =>
    have hrun : (run writes).config.presentPair = ([], []) := by
      rw [presentPair_run_eq_nil_iff, lastSome_samples_of_legacy writes hlegacy]
      exact fun _ h => by cases h
    simp [hempty, hrun]
  | some last =>
    cases last with
    | none => simp [hempty, eq_comm]
    | some decoded =>
      have hrun := presentPair_eq_of_samplePair_eq (samplePair_run_of_legacy writes hlegacy)
      simp [hrun]

theorem lastSome_samples_of_samples {decoded : AdcCalibrationConfig}
    (h : lastSome legacy? writes = some (some decoded)) :
    lastSome samples? writes = some decoded := by
  induction writes using List.reverseRecOn with
  | nil => cases h
  | append_singleton writes written ih =>
    rw [lastSome_append_singleton] at h ⊢
    cases written with
    | samples value => simpa [legacy?, samples?] using h
    | references value => simp [legacy?] at h
    | targets value => simp [legacy?] at h
    | _ => exact ih h

/-- The fit of slot `A` is the same where no samples are lost. -/
theorem legacyFits_last {last : Option AdcCalibrationConfig}
    (hlegacy : lastSome legacy? writes = some last)
    (hsamples : lastSome legacy? writes = some none →
      ∀ decoded, lastSome samples? writes = some decoded → decoded.presentPair = ([], [])) :
    legacyFits (last.getD {}) = legacyFits ((lastSome samples? writes).getD {}) := by
  cases last with
  | some decoded => rw [lastSome_samples_of_samples writes hlegacy]
  | none =>
    cases hlast : lastSome samples? writes with
    | none => rfl
    | some decoded =>
      apply legacyFits_congr
      have hempty := (presentPair_eq_nil_iff decoded).mp (hsamples hlegacy decoded hlast)
      rw [Option.getD_some, hempty]
      decide

theorem same_migratedSlots_iff (config : AdcCalibrationConfig)
    (draft : AdcCalibrationSlotFit × AdcCalibrationSlotFit) :
    (migratedSlots config).sanitize.Same (slotsOfFits (legacyFits config) draft).sanitize ↔
      DefaultFits draft := by
  have hblank : sanitizeChannelSlotFit {} = {} := by decide
  constructor
  · rintro ⟨⟨-, hrtd⟩, -, hvin⟩
    exact ⟨hblank ▸ hrtd, hblank ▸ hvin⟩
  · rintro ⟨hrtd, hvin⟩
    have hrtdFit : (sanitizeChannelSlotFit {}).Same (sanitizeChannelSlotFit draft.1) := by
      rwa [hblank]
    have hvinFit : (sanitizeChannelSlotFit {}).Same (sanitizeChannelSlotFit draft.2) := by
      rwa [hblank]
    exact ⟨⟨same_sanitize_self _, hrtdFit⟩, same_sanitize_self _, hvinFit⟩

theorem slots_agree_iff_of_migrates (h : Migrates writes)
    (hsamples : lastSome legacy? writes = some none →
      ∀ decoded, lastSome samples? writes = some decoded → decoded.presentPair = ([], [])) :
    (runRestarting writes).slotPair.sanitize.Same (run writes).finish.slotPair.sanitize ↔
      DefaultFits (draftFits writes) := by
  rw [slotPair_runRestarting, slotPair_finish_of_migrates writes h]
  cases hlast : lastEither slots? legacy? writes with
  | none => exact absurd (lastEither_eq_none hlast).2 h.1
  | some last =>
    cases last with
    | inl slots =>
      have hslots := lastSome_left_of_lastEither hlast
      rw [h.2.1] at hslots
      cases hslots
    | inr decoded =>
      have hlegacy := lastSome_right_of_lastEither hlast
      rw [← legacyFits_last writes hlegacy hsamples]
      exact same_migratedSlots_iff (decoded.getD {}) (draftFits writes)

theorem slots_agree_iff_of_not_migrates (h : ¬ Migrates writes) :
    (runRestarting writes).slotPair.sanitize.Same (run writes).finish.slotPair.sanitize ↔
      ∀ decoded, lastEither slots? legacy? writes = some (.inr decoded) →
        (migratedSlots (decoded.getD {})).sanitize.Same
          ((lastSome slots? writes).getD ({}, {})).sanitize := by
  rw [same_slotPair_finish writes h, slotPair_runRestarting]
  cases hlast : lastEither slots? legacy? writes with
  | none =>
    rw [(lastEither_eq_none hlast).1]
    exact iff_of_true (SlotPair.same_sanitize_self _) fun _ h => by cases h
  | some last =>
    cases last with
    | inl slots =>
      rw [lastSome_left_of_lastEither hlast]
      exact iff_of_true (SlotPair.same_sanitize_self _) fun _ h => by cases h
    | inr decoded =>
      constructor
      · rintro hsame other ⟨⟩
        exact hsame
      · exact fun hsame => hsame decoded rfl

theorem active_agree_iff :
    (runRestarting writes).activeSlotPair = (run writes).finish.activeSlotPair ↔
      ∀ decoded, lastEither activeSlots? legacy? writes = some (.inr decoded) →
        (lastSome activeSlots? writes).getD (.a, .a) = (.a, .a) := by
  rw [activeSlotPair_runRestarting, activeSlotPair_finish]
  cases hlast : lastEither activeSlots? legacy? writes with
  | none =>
    rw [(lastEither_eq_none hlast).1]
    exact iff_of_true rfl fun _ h => by cases h
  | some last =>
    cases last with
    | inl active =>
      rw [lastSome_left_of_lastEither hlast]
      exact iff_of_true rfl fun _ h => by cases h
    | inr decoded =>
      constructor
      · rintro hsame other ⟨⟩
        exact hsame.symm
      · exact fun hsame => (hsame decoded rfl).symm

/-- Both ways of decoding leave the same calibration behind exactly when nothing of
it is lost. -/
theorem sameAdc_iff_calibrationSurvives :
    SameAdc (sanitizeAdcCalibration (runRestarting writes))
      (sanitizeAdcCalibration (run writes).finish) ↔ CalibrationSurvives writes := by
  have hsamples : (sanitizeAdcCalibration (runRestarting writes)).samplePair =
      (sanitizeAdcCalibration (run writes).finish).samplePair ↔ _ :=
    (samplePair_sanitize_eq_iff _ _).trans
      ((presentPair_eq_of_samplePair_eq (samplePair_finish writes)) ▸ samples_agree_iff writes)
  have hactive := active_agree_iff writes
  constructor
  · rintro ⟨hsample, hslot, hselect⟩
    have hkept := hsamples.mp hsample
    exact
      { samples := hkept
        draft := fun h => (slots_agree_iff_of_migrates writes h hkept).mp hslot
        slots := fun h => (slots_agree_iff_of_not_migrates writes h).mp hslot
        active := hactive.mp hselect }
  · intro h
    refine ⟨hsamples.mpr h.samples, ?_, hactive.mpr h.active⟩
    by_cases hmigrates : Migrates writes
    · exact (slots_agree_iff_of_migrates writes hmigrates h.samples).mpr (h.draft hmigrates)
    · exact (slots_agree_iff_of_not_migrates writes hmigrates).mpr (h.slots hmigrates)

end AdcDecode

end FluxPurr.Memory
