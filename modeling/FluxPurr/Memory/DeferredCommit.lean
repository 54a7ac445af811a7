import FluxPurr.Memory.ConfigCommands
import FluxPurr.Runs.Reaches

/-!
# Scheduled and immediate commits

Most edits of the configuration only schedule a commit, which is written once the edits
have paused for two seconds and the heater is off.  Three operations write at once: a
change of the calibration, a tuned profile, and a completed plant calibration.  Each of
them writes its own domains and then clears the common due time.

`Covered` says that no unsaved change is forgotten.  An immediate commit keeps it exactly
when it leaves no other domain unsaved (`next_covered_iff`), and so do runs of such steps
(`covered_of_run`).  A front panel edit followed by a calibration edit within the two
seconds does not (`not_all_runs_covered`).
-/

namespace FluxPurr.Memory

open FluxPurr.Runs FluxPurr.Supply

abbrev memoryWriteDebounceMs : ℕ := 2000
abbrev elapsedMaxMs : ℕ := 2 ^ 64 - 1

/-- `elapsed_ms.saturating_add(MEMORY_WRITE_DEBOUNCE_MS)`. -/
def debounceUntil (elapsedMs : ℕ) : ℕ := min (elapsedMs + memoryWriteDebounceMs) elapsedMaxMs

structure PersistenceState where
  memoryConfig : MemoryConfig
  lastPersistedMemoryConfig : MemoryConfig
  memoryCommitDueMs : Option ℕ := none
  eepromRequired : Bool := false
  eepromDataIncompatible : Bool := false
  /-- The fault by the domain in its code. -/
  persistenceFault : Option PersistDomain := none

namespace PersistenceState

variable (state : PersistenceState)

def persistenceLocked : Bool := state.eepromDataIncompatible || state.eepromRequired

def scheduled (elapsedMs : ℕ) : PersistenceState :=
  { state with memoryCommitDueMs := some (debounceUntil elapsedMs) }

/-- A fault of a failed commit does not say that the stored data are incompatible. -/
def markEepromRequired (fault : Option PersistDomain) : PersistenceState :=
  { state with
    memoryCommitDueMs := none
    eepromDataIncompatible := fault.isNone || state.eepromDataIncompatible
    eepromRequired := true
    persistenceFault := fault.or state.persistenceFault }

def restorePersistedMemoryDomains (domains : PersistDomainMask) : PersistenceState :=
  { state with
    memoryConfig :=
      copyPersistedDomains state.memoryConfig state.lastPersistedMemoryConfig domains }

/-- What was written is the last persisted value of its domains. -/
def written (domains : PersistDomainMask) : PersistenceState :=
  { state with
    lastPersistedMemoryConfig :=
      copyPersistedDomains state.lastPersistedMemoryConfig state.memoryConfig domains }

end PersistenceState

/-- The failure of a commit, by its domain.  Nothing to write cannot fail. -/
def commitMemoryConfigNow (domains : PersistDomainMask) (failure : Option PersistDomain) :
    Option PersistDomain :=
  if domains.isEmpty then none else failure

def memoryFailureRequiresHeaterLock : PersistDomain → Bool
  | .safetyCalibration | .thermalPolicy | .thermalPlant | .layoutMarker => true
  | .userPreferences | .networkAndPairing => false

/-- An operation with what it is given: the time, the command or the edited values, and
for a commit the domain whose write fails, if one does. -/
inductive ConfigOperation where
  | persistFrontpanelMemory (settings : FrontPanelSettings) (elapsedMs : ℕ)
  | wifiConfig (command : WifiConfigCommand) (elapsedMs : ℕ)
  /-- `admitted`: the checks of the heater, PPS and calibration requests that the command
  may also contain have passed. -/
  | runtimeConfig (command : RuntimeConfigCommand) (admitted : Bool) (elapsedMs : ℕ)
  | persistedTokenChange (token : Option (Vector UInt8 lanTokenBytes)) (elapsedMs : ℕ)
  | clearLanPairingToken (elapsedMs : ℕ)
  | calibrationConfig (command : CalibrationConfigCommand)
      (refitted : Option ThermalPlantTransientTransaction) (failure : Option PersistDomain)
  | confirmSave (bank : ThermalProfileBank) (candidate : ThermalControlProfileConfig)
      (failure : Option PersistDomain)
  | completedThermalPlant (boundary : Option SupplyBoundary)
      (fitted : Option ThermalPlantTransientTransaction) (failure : Option PersistDomain)
  /-- `permitted`: the heater, the calibration and PPS are off, and no snapshot of the
  EEPROM is being read. -/
  | commitDeferredMemory (elapsedMs : ℕ) (permitted : Bool) (failure : Option PersistDomain)
  /-- A response that was still being sent has left the USB writer. -/
  | usbResponseSent (elapsedMs : ℕ)

namespace PersistenceState

def persistFrontpanelMemory (state : PersistenceState) (settings : FrontPanelSettings)
    (elapsedMs : ℕ) : PersistenceState :=
  let nextMemoryConfig := memoryConfigFromUi settings state.memoryConfig
  if nextMemoryConfig.eq state.memoryConfig then state
  else { state with memoryConfig := nextMemoryConfig }.scheduled elapsedMs

def processWifiConfigFrame (state : PersistenceState) (command : WifiConfigCommand)
    (elapsedMs : ℕ) : PersistenceState :=
  if command.op = .cancel ∨ state.persistenceLocked then state
  else { state with memoryConfig := command.applyTo state.memoryConfig }.scheduled elapsedMs

def processRuntimeConfigFrame (state : PersistenceState) (command : RuntimeConfigCommand)
    (admitted : Bool) (elapsedMs : ℕ) : PersistenceState :=
  if ¬ command.isValid ∨ ¬ admitted then state
  else
    let edited := { state with memoryConfig := command.applyTo state.memoryConfig }
    if edited.memoryConfig.eq state.memoryConfig then edited else edited.scheduled elapsedMs

def takePersistedTokenChange (state : PersistenceState)
    (token : Option (Vector UInt8 lanTokenBytes)) (elapsedMs : ℕ) : PersistenceState :=
  { state with
    memoryConfig := { state.memoryConfig with lanPairingToken := token } }.scheduled elapsedMs

def processClearLanPairingToken (state : PersistenceState) (elapsedMs : ℕ) : PersistenceState :=
  if state.persistenceLocked then state else state.takePersistedTokenChange none elapsedMs

/-- The changed domains are written at once, and restored when that fails. -/
def processCalibrationConfigFrame (state : PersistenceState) (command : CalibrationConfigCommand)
    (refitted : Option ThermalPlantTransientTransaction) (failure : Option PersistDomain) :
    PersistenceState :=
  if state.persistenceLocked then state
  else
    let edited :=
      { state with
        memoryConfig := usbCalibrationConfigResponse command refitted state.memoryConfig }
    if edited.memoryConfig.eq state.memoryConfig then edited
    else
      let changed := persistDomainMaskBetween edited.memoryConfig state.memoryConfig
      match commitMemoryConfigNow changed failure with
      | some fault =>
          let restored := edited.restorePersistedMemoryDomains changed
          if memoryFailureRequiresHeaterLock fault then restored.markEepromRequired (some fault)
          else { restored with persistenceFault := some fault }
      | none => { edited.written changed with memoryCommitDueMs := none }

def persistThermalTuningCandidate (state : PersistenceState) (bank : ThermalProfileBank)
    (candidate : ThermalControlProfileConfig) (failure : Option PersistDomain) :
    PersistenceState :=
  let edited := { state with memoryConfig := state.memoryConfig.setThermalProfile bank candidate }
  match commitMemoryConfigNow .thermal failure with
  | some fault =>
      (edited.restorePersistedMemoryDomains .thermal).markEepromRequired (some fault)
  | none => { edited.written .thermal with memoryCommitDueMs := none }

/-- `runtime_persist_completed_thermal_plant`, which is called when the job that has just
ended has changed the configuration. -/
def persistCompletedThermalPlant (state : PersistenceState) (boundary : Option SupplyBoundary)
    (fitted : Option ThermalPlantTransientTransaction) (failure : Option PersistDomain) :
    PersistenceState :=
  let edited :=
    { state with
      memoryConfig := completeThermalPlantCalibration boundary fitted state.memoryConfig }
  if edited.memoryConfig.eq state.memoryConfig then edited
  else
    let domains := PersistDomainMask.safety.union .thermalPlant
    match commitMemoryConfigNow domains failure with
    | some fault => (edited.restorePersistedMemoryDomains domains).markEepromRequired (some fault)
    | none => { edited.written domains with memoryCommitDueMs := none }

def handleMemoryCommitFailure (state : PersistenceState) (fault : PersistDomain)
    (domains : PersistDomainMask) : PersistenceState :=
  if memoryFailureRequiresHeaterLock fault then
    (state.restorePersistedMemoryDomains domains).markEepromRequired (some fault)
  else { state with persistenceFault := some fault }

def discardDeferredMemoryCommitForIncompatibleEeprom (eepromDataIncompatible : Bool)
    (memoryCommitDueMs : Option ℕ) : Option ℕ :=
  if eepromDataIncompatible then none else memoryCommitDueMs

def commitDeferredMemory (state : PersistenceState) (elapsedMs : ℕ) (permitted : Bool)
    (failure : Option PersistDomain) : PersistenceState :=
  let due := discardDeferredMemoryCommitForIncompatibleEeprom state.persistenceLocked
    state.memoryCommitDueMs
  if due.all (fun dueMs => decide (elapsedMs < dueMs)) || !permitted then
    { state with memoryCommitDueMs := due }
  else
    let domains := persistDomainMaskBetween state.memoryConfig state.lastPersistedMemoryConfig
    let started := { state with memoryCommitDueMs := none }
    match commitMemoryConfigNow domains failure with
    | some fault => started.handleMemoryCommitFailure fault domains
    | none => started.written domains

def usbResponseSent (state : PersistenceState) (elapsedMs : ℕ) : PersistenceState :=
  if state.memoryCommitDueMs.isSome then state.scheduled elapsedMs else state

def next (state : PersistenceState) : ConfigOperation → PersistenceState
  | .persistFrontpanelMemory settings elapsedMs => state.persistFrontpanelMemory settings elapsedMs
  | .wifiConfig command elapsedMs => state.processWifiConfigFrame command elapsedMs
  | .runtimeConfig command admitted elapsedMs =>
      state.processRuntimeConfigFrame command admitted elapsedMs
  | .persistedTokenChange token elapsedMs => state.takePersistedTokenChange token elapsedMs
  | .clearLanPairingToken elapsedMs => state.processClearLanPairingToken elapsedMs
  | .calibrationConfig command refitted failure =>
      state.processCalibrationConfigFrame command refitted failure
  | .confirmSave bank candidate failure =>
      state.persistThermalTuningCandidate bank candidate failure
  | .completedThermalPlant boundary fitted failure =>
      state.persistCompletedThermalPlant boundary fitted failure
  | .commitDeferredMemory elapsedMs permitted failure =>
      state.commitDeferredMemory elapsedMs permitted failure
  | .usbResponseSent elapsedMs => state.usbResponseSent elapsedMs

/-! ## Unsaved changes -/

/-- The domain differs from what was last written. -/
def Unsaved (state : PersistenceState) (domain : PersistDomain) : Prop :=
  persistDomainMaskBetween state.memoryConfig state.lastPersistedMemoryConfig domain = true

/-- The user has been told, or every write is locked. -/
def Faulted (state : PersistenceState) : Prop :=
  state.persistenceLocked = true ∨ state.persistenceFault.isSome = true

/-- A domain with an unsaved change is written by a scheduled commit, or the persistence
has failed. -/
def Covered (state : PersistenceState) : Prop :=
  ∀ domain, state.Unsaved domain → state.memoryCommitDueMs.isSome = true ∨ state.Faulted

/-- What the operation writes at once and with success: the edited configuration and the
domains. -/
def immediateWrite (state : PersistenceState) :
    ConfigOperation → Option (MemoryConfig × PersistDomainMask)
  | .calibrationConfig command refitted failure =>
      let edited := usbCalibrationConfigResponse command refitted state.memoryConfig
      let changed := persistDomainMaskBetween edited state.memoryConfig
      if state.persistenceLocked ∨ edited.eq state.memoryConfig ∨
          (commitMemoryConfigNow changed failure).isSome then none
      else some (edited, changed)
  | .confirmSave bank candidate failure =>
      if (commitMemoryConfigNow .thermal failure).isSome then none
      else some (state.memoryConfig.setThermalProfile bank candidate, .thermal)
  | .completedThermalPlant boundary fitted failure =>
      let edited := completeThermalPlantCalibration boundary fitted state.memoryConfig
      let domains := PersistDomainMask.safety.union .thermalPlant
      if edited.eq state.memoryConfig ∨ (commitMemoryConfigNow domains failure).isSome then none
      else some (edited, domains)
  | .persistFrontpanelMemory .. | .wifiConfig .. | .runtimeConfig .. | .persistedTokenChange .. |
    .clearLanPairingToken .. | .commitDeferredMemory .. | .usbResponseSent .. => none

/-- Unless the persistence has failed already, an immediate write leaves no other domain
unsaved. -/
def LeavesNoOther (state : PersistenceState) (operation : ConfigOperation) : Prop :=
  ∀ edited domains, state.immediateWrite operation = some (edited, domains) →
    state.Faulted ∨
      ∀ domain, persistDomainMaskBetween edited state.lastPersistedMemoryConfig domain = true →
        domains.includes domain = true

structure IsNumeric (state : PersistenceState) : Prop where
  current : state.memoryConfig.FitsAreNumbers
  persisted : state.lastPersistedMemoryConfig.FitsAreNumbers

variable {state after : PersistenceState} {operation : ConfigOperation}
  {domains : PersistDomainMask} {domain fault : PersistDomain} {edited : MemoryConfig}

/-! ## What the parts of an operation do -/

theorem unsaved_written (h : state.memoryConfig.FitsAreNumbers) :
    (state.written domains).Unsaved domain ↔
      state.Unsaved domain ∧ domains.includes domain = false := by
  simp only [Unsaved, written, persistDomainMaskBetween_copyPersistedDomains h, Bool.and_eq_true,
    Bool.not_eq_true']

theorem covered_of_faulted (h : state.Faulted) : state.Covered := fun _ _ => Or.inr h

theorem covered_of_scheduled (h : state.memoryCommitDueMs.isSome) : state.Covered :=
  fun _ _ => Or.inl h

theorem faulted_markEepromRequired (fault : Option PersistDomain) :
    (state.markEepromRequired fault).Faulted := by
  left
  simp [markEepromRequired, persistenceLocked]

theorem IsNumeric.withConfig (h : state.IsNumeric) (hedited : edited.FitsAreNumbers) :
    ({ state with memoryConfig := edited } : PersistenceState).IsNumeric := ⟨hedited, h.persisted⟩

theorem IsNumeric.written (h : state.IsNumeric) (domains : PersistDomainMask) :
    (state.written domains).IsNumeric := ⟨h.current, h.current.copyPersistedDomains h.persisted⟩

theorem IsNumeric.restored (h : state.IsNumeric) (domains : PersistDomainMask) :
    (state.restorePersistedMemoryDomains domains).IsNumeric :=
  ⟨h.persisted.copyPersistedDomains h.current, h.persisted⟩

theorem IsNumeric.noted (h : state.IsNumeric) (memoryCommitDueMs : Option ℕ)
    (persistenceFault : Option PersistDomain) :
    ({ state with memoryCommitDueMs, persistenceFault } : PersistenceState).IsNumeric :=
  ⟨h.current, h.persisted⟩

theorem IsNumeric.marked (h : state.IsNumeric) (fault : Option PersistDomain) :
    (state.markEepromRequired fault).IsNumeric := ⟨h.current, h.persisted⟩

/-- An edit that the code takes for none differs in the same domains as before. -/
theorem Covered.of_eq (h : state.Covered) (heq : edited.eq state.memoryConfig = true) :
    ({ state with memoryConfig := edited } : PersistenceState).Covered := by
  intro domain hunsaved
  refine h domain ?_
  rwa [Unsaved, persistDomainMaskBetween_congr heq] at hunsaved

/-! ## One operation -/

theorem next_isNumeric (h : state.IsNumeric) (operation : ConfigOperation) :
    (state.next operation).IsNumeric := by
  cases operation with
  | persistFrontpanelMemory settings elapsedMs =>
    simp only [next, persistFrontpanelMemory]
    split_ifs
    · exact h
    · exact ⟨h.current, h.persisted⟩
  | wifiConfig command elapsedMs =>
    simp only [next, processWifiConfigFrame]
    split_ifs
    · exact h
    · exact ⟨MemoryConfig.sanitize_fitsAreNumbers _, h.persisted⟩
  | runtimeConfig command admitted elapsedMs =>
    simp only [next, processRuntimeConfigFrame]
    split_ifs
    · exact h
    all_goals exact ⟨MemoryConfig.sanitize_fitsAreNumbers _, h.persisted⟩
  | persistedTokenChange token elapsedMs => exact ⟨h.current, h.persisted⟩
  | clearLanPairingToken elapsedMs =>
    simp only [next, processClearLanPairingToken]
    split_ifs
    · exact h
    · exact ⟨h.current, h.persisted⟩
  | calibrationConfig command refitted failure =>
    have hedited := h.withConfig
      (usbCalibrationConfigResponse_fitsAreNumbers command refitted h.current)
    simp only [next, processCalibrationConfigFrame]
    split_ifs
    · exact h
    · exact hedited
    · split
      · split_ifs
        · exact (hedited.restored _).marked _
        · exact (hedited.restored _).noted _ _
      · exact (hedited.written _).noted _ _
  | confirmSave bank candidate failure =>
    have hedited := h.withConfig (h.current.setThermalProfile bank candidate)
    simp only [next, persistThermalTuningCandidate]
    split
    · exact (hedited.restored _).marked _
    · exact (hedited.written _).noted _ _
  | completedThermalPlant boundary fitted failure =>
    have hedited := h.withConfig
      (completeThermalPlantCalibration_fitsAreNumbers boundary fitted h.current)
    simp only [next, persistCompletedThermalPlant]
    split_ifs
    · exact hedited
    · split
      · exact (hedited.restored _).marked _
      · exact (hedited.written _).noted _ _
  | commitDeferredMemory elapsedMs permitted failure =>
    simp only [next, commitDeferredMemory]
    split
    · exact h.noted _ _
    · split
      · unfold handleMemoryCommitFailure
        split_ifs
        · exact ((h.noted _ _).restored _).marked _
        · exact h.noted _ _
      · exact (h.noted _ _).written _
  | usbResponseSent elapsedMs =>
    simp only [next, usbResponseSent]
    split_ifs
    · exact h.noted _ _
    · exact h

/-- A commit of everything that differs leaves nothing unsaved. -/
theorem covered_written_all (h : state.memoryConfig.FitsAreNumbers) :
    (state.written
      (persistDomainMaskBetween state.memoryConfig state.lastPersistedMemoryConfig)).Covered := by
  intro domain hunsaved
  obtain ⟨hdiffers, hkept⟩ := (unsaved_written h).mp hunsaved
  exact absurd (hdiffers.symm.trans hkept) (by decide)

theorem next_covered_of_not_immediate (h : state.IsNumeric) (hcovered : state.Covered)
    (hnone : state.immediateWrite operation = none) : (state.next operation).Covered := by
  cases operation with
  | persistFrontpanelMemory settings elapsedMs =>
    simp only [next, persistFrontpanelMemory]
    split_ifs
    · exact hcovered
    · exact covered_of_scheduled rfl
  | wifiConfig command elapsedMs =>
    simp only [next, processWifiConfigFrame]
    split_ifs
    · exact hcovered
    · exact covered_of_scheduled rfl
  | runtimeConfig command admitted elapsedMs =>
    simp only [next, processRuntimeConfigFrame]
    split_ifs with _ heq
    · exact hcovered
    · exact hcovered.of_eq heq
    · exact covered_of_scheduled rfl
  | persistedTokenChange token elapsedMs => exact covered_of_scheduled rfl
  | clearLanPairingToken elapsedMs =>
    simp only [next, processClearLanPairingToken]
    split_ifs
    · exact hcovered
    · exact covered_of_scheduled rfl
  | calibrationConfig command refitted failure =>
    simp only [next, processCalibrationConfigFrame]
    split_ifs with hlocked heq
    · exact hcovered
    · exact hcovered.of_eq heq
    · split
      · split_ifs
        · exact covered_of_faulted (faulted_markEepromRequired _)
        · exact covered_of_faulted (Or.inr rfl)
      · rename_i hsuccess
        simp [immediateWrite, hlocked, heq, hsuccess] at hnone
  | confirmSave bank candidate failure =>
    simp only [next, persistThermalTuningCandidate]
    split
    · exact covered_of_faulted (faulted_markEepromRequired _)
    · rename_i hsuccess
      simp [immediateWrite, hsuccess] at hnone
  | completedThermalPlant boundary fitted failure =>
    simp only [next, persistCompletedThermalPlant]
    split_ifs with heq
    · exact hcovered.of_eq heq
    · split
      · exact covered_of_faulted (faulted_markEepromRequired _)
      · rename_i hsuccess
        simp [immediateWrite, heq, hsuccess] at hnone
  | commitDeferredMemory elapsedMs permitted failure =>
    simp only [next, commitDeferredMemory]
    split
    · by_cases hlocked : state.persistenceLocked
      · exact covered_of_faulted (Or.inl hlocked)
      · rw [discardDeferredMemoryCommitForIncompatibleEeprom, if_neg hlocked]
        exact hcovered
    · split
      · unfold handleMemoryCommitFailure
        split_ifs
        · exact covered_of_faulted (faulted_markEepromRequired _)
        · exact covered_of_faulted (Or.inr rfl)
      · exact covered_written_all h.current
  | usbResponseSent elapsedMs =>
    simp only [next, usbResponseSent]
    split_ifs
    · exact covered_of_scheduled rfl
    · exact hcovered

/-- An immediate write clears the due time, whatever it was set for. -/
theorem next_of_immediateWrite (h : state.immediateWrite operation = some (edited, domains)) :
    state.next operation =
      { ({ state with memoryConfig := edited } : PersistenceState).written domains with
        memoryCommitDueMs := none } := by
  cases operation with
  | calibrationConfig command refitted failure =>
    simp only [immediateWrite] at h
    split_ifs at h with hrefused
    rw [not_or, not_or, Option.isSome_iff_ne_none, not_not] at hrefused
    obtain ⟨hunlocked, hchanged, hsuccess⟩ := hrefused
    obtain ⟨rfl, rfl⟩ := Prod.mk.inj (Option.some.inj h)
    simp only [next, processCalibrationConfigFrame, if_neg hunlocked, if_neg hchanged, hsuccess]
  | confirmSave bank candidate failure =>
    simp only [immediateWrite] at h
    split_ifs at h with hfailed
    rw [Option.isSome_iff_ne_none, not_not] at hfailed
    obtain ⟨rfl, rfl⟩ := Prod.mk.inj (Option.some.inj h)
    simp only [next, persistThermalTuningCandidate, hfailed]
  | completedThermalPlant boundary fitted failure =>
    simp only [immediateWrite] at h
    split_ifs at h with hrefused
    rw [not_or, Option.isSome_iff_ne_none, not_not] at hrefused
    obtain ⟨hchanged, hsuccess⟩ := hrefused
    obtain ⟨rfl, rfl⟩ := Prod.mk.inj (Option.some.inj h)
    simp only [next, persistCompletedThermalPlant, if_neg hchanged, hsuccess]
  | persistFrontpanelMemory | wifiConfig | runtimeConfig | persistedTokenChange
  | clearLanPairingToken | commitDeferredMemory | usbResponseSent => cases h

theorem immediateWrite_fitsAreNumbers (h : state.IsNumeric)
    (hwrite : state.immediateWrite operation = some (edited, domains)) :
    edited.FitsAreNumbers := by
  have hnext := (next_isNumeric h operation).current
  rw [next_of_immediateWrite hwrite] at hnext
  exact hnext

/-- An operation keeps the changes covered exactly when it leaves no other domain unsaved. -/
theorem next_covered_iff (h : state.IsNumeric) (hcovered : state.Covered) :
    (state.next operation).Covered ↔ state.LeavesNoOther operation := by
  cases hwrite : state.immediateWrite operation with
  | none =>
    have hkeeps : state.LeavesNoOther operation := by
      intro edited domains hsome
      cases hwrite.symm.trans hsome
    exact iff_of_true (next_covered_of_not_immediate h hcovered hwrite) hkeeps
  | some written =>
    obtain ⟨edited, domains⟩ := written
    have hunsaved : ∀ domain, (state.next operation).Unsaved domain ↔
        persistDomainMaskBetween edited state.lastPersistedMemoryConfig domain = true ∧
          domains.includes domain = false := by
      intro domain
      rw [next_of_immediateWrite hwrite]
      have hedited : ({ state with memoryConfig := edited } :
          PersistenceState).memoryConfig.FitsAreNumbers := immediateWrite_fitsAreNumbers h hwrite
      exact unsaved_written hedited
    have hfaulted : (state.next operation).Faulted ↔ state.Faulted := by
      rw [next_of_immediateWrite hwrite]
      exact Iff.rfl
    have hdue : (state.next operation).memoryCommitDueMs = none := by
      rw [next_of_immediateWrite hwrite]
    constructor
    · intro hafter edited' domains' hsome
      obtain ⟨rfl, rfl⟩ := Prod.mk.inj (Option.some.inj (hwrite.symm.trans hsome))
      by_cases hbefore : state.Faulted
      · exact Or.inl hbefore
      · refine Or.inr fun domain hdiffers => ?_
        by_contra hother
        rcases hafter domain ((hunsaved domain).mpr ⟨hdiffers, eq_false_of_ne_true hother⟩) with
          hscheduled | hfault
        · rw [hdue] at hscheduled
          cases hscheduled
        · exact hbefore (hfaulted.mp hfault)
    · intro hkeeps domain hleft
      obtain ⟨hdiffers, hother⟩ := (hunsaved domain).mp hleft
      rcases hkeeps edited domains hwrite with hbefore | hincluded
      · exact Or.inr (hfaulted.mpr hbefore)
      · exact absurd ((hincluded domain hdiffers).symm.trans hother) (by decide)

/-! ## Runs -/

/-- After the boot the configuration is the stored one, or the default, and no commit is
scheduled. -/
def Starts (state : PersistenceState) : Prop :=
  state.memoryConfig.FitsAreNumbers ∧ state.lastPersistedMemoryConfig = state.memoryConfig ∧
    state.memoryCommitDueMs = none

theorem Starts.isNumeric (h : state.Starts) : state.IsNumeric := ⟨h.1, h.2.1.symm ▸ h.1⟩

theorem Starts.covered (h : state.Starts) : state.Covered := by
  intro domain hunsaved
  rw [Unsaved, h.2.1, persistDomainMaskBetween_self h.1] at hunsaved
  cases hunsaved

/-- In a run whose immediate writes leave no other domain unsaved, no unsaved change is ever
forgotten. -/
theorem covered_of_run {start : PersistenceState} {operations : List ConfigOperation}
    (hstart : start.Starts)
    (hrun : Reaches (fun state operation after =>
      state.LeavesNoOther operation ∧ after = state.next operation) start operations state) :
    state.Covered := by
  have hinvariant : state.IsNumeric ∧ state.Covered := by
    have hstep : ∀ (before : PersistenceState) operation (after : PersistenceState),
        before.IsNumeric ∧ before.Covered →
          before.LeavesNoOther operation ∧ after = before.next operation →
            after.IsNumeric ∧ after.Covered := by
      rintro before operation after ⟨hnumeric, hcovered⟩ ⟨hkeeps, rfl⟩
      exact ⟨next_isNumeric hnumeric operation, (next_covered_iff hnumeric hcovered).mpr hkeeps⟩
    exact hrun.invariant ⟨hstart.isNumeric, hstart.covered⟩ hstep
  exact hinvariant.2

/-- A new device. -/
def newDevice : PersistenceState := { memoryConfig := {}, lastPersistedMemoryConfig := {} }

theorem newDevice_starts : newDevice.Starts :=
  ⟨⟨⟨⟨rfl, rfl⟩, rfl, rfl⟩, ⟨rfl, rfl⟩, rfl, rfl⟩, rfl, rfl⟩

/-- The panel of a new device, set to another temperature. -/
def warmerPanel : FrontPanelSettings :=
  { targetTempC := 150
    selectedPresetSlot := 1
    presetsC := defaultPresetsC
    activeCoolingEnabled := true
    postHeatCoolingMode := .normal
    heatingFanGuardMode := .medium }

/-- The new temperature is written two seconds after it was set. -/
theorem newDevice_covered : ((newDevice.next (.persistFrontpanelMemory warmerPanel 0)).next
      (.commitDeferredMemory 2000 true none)).Covered := by
  have hnone : ∀ (state : PersistenceState) operation,
      state.immediateWrite operation = none → state.LeavesNoOther operation := by
    intro state operation hnone edited domains hsome
    cases hnone.symm.trans hsome
  exact covered_of_run newDevice_starts
    (.step (.step .refl ⟨hnone _ _ rfl, rfl⟩) ⟨hnone _ _ rfl, rfl⟩)

/-- A calibration sample is captured right after the temperature was set. -/
def captureAfterEdit : List ConfigOperation :=
  [.persistFrontpanelMemory warmerPanel 0,
    .calibrationConfig
      { op := .capture
        channel := some .rtd
        sample := some { observedMv := 1000, expectedMv := 1010 } } none none]

/-- A calibration sample is captured before the two seconds have passed: the calibration is
written, and the new temperature never is. -/
theorem not_all_runs_covered : ¬ ∀ operations state,
      Reaches (fun state operation after => after = state.next operation) newDevice operations
        state → state.Covered := by
  intro hcovered
  have hforgotten :
      persistDomainMaskBetween (captureAfterEdit.foldl next newDevice).memoryConfig
        (captureAfterEdit.foldl next newDevice).lastPersistedMemoryConfig .userPreferences ∧
      (captureAfterEdit.foldl next newDevice).memoryCommitDueMs = none ∧
      (captureAfterEdit.foldl next newDevice).persistenceLocked = false ∧
      (captureAfterEdit.foldl next newDevice).persistenceFault = none := by
    decide +kernel
  obtain ⟨hunsaved, hdue, hunlocked, hfault⟩ := hforgotten
  rcases hcovered _ _ (.of_foldl next newDevice captureAfterEdit) .userPreferences hunsaved with
    hscheduled | hlocked | hfaulted
  · rw [hdue] at hscheduled
    cases hscheduled
  · rw [hunlocked] at hlocked
    cases hlocked
  · rw [hfault] at hfaulted
    cases hfaulted

end PersistenceState

end FluxPurr.Memory
