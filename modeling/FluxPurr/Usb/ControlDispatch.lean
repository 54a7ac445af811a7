import FluxPurr.Memory.DeferredCommit
import FluxPurr.Usb.MutationReplay

/-!
# What a control line does to the persistence

A control line is parsed and given to the handler of its frame.  Here is what the handlers do to
the configuration and to the scheduled commit; what they decide from the rest of the device is an
input (`ControlAnswers`).

A line that leaves the configuration as it is and writes no commit leaves the due time as well,
but for two kinds (`due_dispatchControlFrame`): a command that schedules a commit without looking
whether there is something to save, and a raw write, which locks the persistence.
-/

namespace FluxPurr.Memory

inductive SetupCompletionError where
  | sensorNotReady
  | calibrationRequired
deriving DecidableEq, Repr

def MemoryConfig.completeSetup (config : MemoryConfig) (sensorReady : Bool) :
    Except SetupCompletionError MemoryConfig :=
  if !sensorReady then .error .sensorNotReady
  else if (config.activeHeaterCurve.points.toList.filter Option.isSome).length < 2 then
    .error .calibrationRequired
  else .ok { config with commissioningRequired := false }

def MemoryConfig.resetForCommissioning (_config : MemoryConfig) : MemoryConfig := {}

/-- The persistence is locked and no commit is scheduled any more. -/
def PersistenceState.beginMutatingEepromMaintenance (state : PersistenceState) : PersistenceState :=
  { state with
    memoryCommitDueMs := none
    eepromDataIncompatible := true }

end FluxPurr.Memory

namespace FluxPurr.Usb

open FluxPurr.Memory

/-- How the EEPROM took a raw operation. -/
inductive MaintenanceResult where
  | ok
  | storageFailure
  /-- The request was not for a range of the EEPROM. -/
  | refused
deriving DecidableEq, Repr

/-- What the handlers find while they execute a line. -/
structure ControlAnswers (T : WireTypes) where
  elapsedMs : ℕ
  /-- `last_heater_duty != 0`. -/
  heaterActive : Bool
  flashPreparationActive : Bool
  sensorReady : Bool
  thermalPlantCalibrationJobRunning : Bool
  /-- The settings of a runtime command, and whether the checks of its heater, PPS and calibration
  requests let it through. -/
  runtimeSettings : RuntimeConfigCommand T → Memory.RuntimeConfigCommand
  runtimeAdmitted : RuntimeConfigCommand T → Bool
  /-- A calibration command, with the readings it captures. -/
  calibrationSettings : CalibrationConfigCommand T → Memory.CalibrationConfigCommand
  refitted : Option ThermalPlantTransientTransaction
  /-- The configuration once a calibration job has started. -/
  startedJob : CalibrationJobCommandWire → MemoryConfig → MemoryConfig
  /-- The bank and the sealed candidate that a confirmation is about to save. -/
  sealedCandidate : ThermalTuningCommand T → Option (ThermalProfileBank × ThermalControlProfileConfig)
  commitFailure : Option PersistDomain
  /-- The idle power contract was confirmed before a raw write. -/
  idleConfirmed : Bool
  maintenanceResult : EepromMaintenanceCommand → MaintenanceResult
  response : UsbFrame T

variable {T : WireTypes}

namespace ControlAnswers

variable (answers : ControlAnswers T) (memory : PersistenceState)

/-- The requests that need the persistence and are refused during flash preparation. -/
def isLocked : Bool := answers.flashPreparationActive || memory.persistenceLocked

def processCompleteSetup : PersistenceState :=
  if answers.isLocked memory then memory
  else
    match memory.memoryConfig.completeSetup answers.sensorReady with
    | .ok config => { memory with memoryConfig := config }.scheduled answers.elapsedMs
    | .error _ => memory

def processResetPersistence : PersistenceState :=
  if answers.isLocked memory then memory
  else
    { memory with memoryConfig := memory.memoryConfig.resetForCommissioning }.scheduled
      answers.elapsedMs

def processRequestFrame : UsbRequestOp → PersistenceState
  | .completeSetup => answers.processCompleteSetup memory
  | .resetPersistence => answers.processResetPersistence memory
  | .clearLanPairingToken => memory.processClearLanPairingToken answers.elapsedMs
  | .getIdentity | .getInstallStatus | .getNetwork | .getStatus | .getThermalStatus
  | .getLanPairingCode | .openLanPairingWindow | .closeLanPairingWindow | .getCalibration
  | .getCalibrationJob | .getHeaterCurve | .getThermalTuning | .setLogLevel | .prepareFlash
  | .getFlashPreparation | .cancelFlashPreparation => memory

def processRuntimeConfigFrame (config : RuntimeConfigCommand T) : PersistenceState :=
  memory.processRuntimeConfigFrame (answers.runtimeSettings config)
    (!answers.flashPreparationActive && answers.runtimeAdmitted config) answers.elapsedMs

def processThermalTuningFrame (command : ThermalTuningCommand T) : PersistenceState :=
  if command.op ≠ .confirmSave then memory
  else
    match answers.sealedCandidate command with
    | some (bank, candidate) =>
        memory.persistThermalTuningCandidate bank candidate answers.commitFailure
    | none => memory

def processCalibrationConfigFrame (config : CalibrationConfigCommand T) : PersistenceState :=
  if answers.flashPreparationActive || answers.thermalPlantCalibrationJobRunning then memory
  else
    memory.processCalibrationConfigFrame (answers.calibrationSettings config) answers.refitted
      answers.commitFailure

def processCalibrationJobFrame (command : CalibrationJobCommandWire) : PersistenceState :=
  if answers.isLocked memory || command.op = .cancel then memory
  else { memory with memoryConfig := answers.startedJob command memory.memoryConfig }

/-- `apply_successful_eeprom_maintenance_operation`, and the lock of a storage failure. -/
def finishMaintenance (command : EepromMaintenanceCommand) : PersistenceState :=
  match answers.maintenanceResult command with
  | .ok =>
      if command.op = .erase then { memory with memoryConfig := {}, memoryCommitDueMs := none }
      else memory
  | .storageFailure => { memory with eepromRequired := true }
  | .refused => memory

def processEepromMaintenanceFrame (command : EepromMaintenanceCommand) : PersistenceState :=
  if answers.flashPreparationActive && rawEepromOperationMutates command.op then memory
  else if answers.heaterActive then memory
  else if !rawEepromOperationMutates command.op then answers.finishMaintenance memory command
  else if !answers.idleConfirmed then memory.beginMutatingEepromMaintenance
  else answers.finishMaintenance memory.beginMutatingEepromMaintenance command

def dispatchControlFrame : Except UsbFrameError (UsbFrame T) → PersistenceState
  | .ok (.request _ op) => answers.processRequestFrame memory op
  | .ok (.wifiConfig _ config) => memory.processWifiConfigFrame config answers.elapsedMs
  | .ok (.runtimeConfig _ config) => answers.processRuntimeConfigFrame memory config
  | .ok (.thermalTuning _ command) => answers.processThermalTuningFrame memory command
  | .ok (.calibrationConfig _ config) => answers.processCalibrationConfigFrame memory config
  | .ok (.calibrationJob _ command) => answers.processCalibrationJobFrame memory command
  | .ok (.eepromMaintenance _ command) => answers.processEepromMaintenanceFrame memory command
  | .ok (.thermalPlantRun ..) | .ok (.heaterCurveConfig ..) | .ok (.heaterCurveSave _)
  | .ok (.response ..) | .ok (.hello ..) | .ok (.status _) | .ok (.log ..) | .ok (.error ..)
  | .error _ => memory

def processControlLine (line : List Char) : PersistenceState :=
  answers.dispatchControlFrame memory (parseUsbFrame line)

/-! ## What becomes of the due time -/

/-- The frame is one that schedules a commit without comparing the configuration.  A runtime
command does compare, and schedules one for a configuration that does not equal itself. -/
def SchedulesAnyway : Except UsbFrameError (UsbFrame T) → Prop
  | .ok (.request _ .completeSetup) =>
      answers.isLocked memory = false ∧
        (memory.memoryConfig.completeSetup answers.sensorReady).toBool = true
  | .ok (.request _ .resetPersistence) => answers.isLocked memory = false
  | .ok (.request _ .clearLanPairingToken) => memory.persistenceLocked = false
  | .ok (.wifiConfig _ config) => config.op ≠ .cancel ∧ memory.persistenceLocked = false
  | .ok (.runtimeConfig _ config) =>
      (answers.runtimeSettings config).isValid = true ∧
        (!answers.flashPreparationActive && answers.runtimeAdmitted config) = true ∧
          memory.memoryConfig.eq memory.memoryConfig = false
  | _ => False

/-- The frame is a raw write that is let through. -/
def WritesRaw : Except UsbFrameError (UsbFrame T) → Prop
  | .ok (.eepromMaintenance _ command) =>
      rawEepromOperationMutates command.op = true ∧ answers.flashPreparationActive = false ∧
        answers.heaterActive = false
  | _ => False

/-- The frame writes a commit at once. -/
def Commits : Except UsbFrameError (UsbFrame T) → Prop
  | .ok (.thermalTuning _ command) =>
      command.op = .confirmSave ∧ (answers.sealedCandidate command).isSome
  | .ok (.calibrationConfig _ config) =>
      (answers.flashPreparationActive || answers.thermalPlantCalibrationJobRunning) = false ∧
        memory.persistenceLocked = false ∧
          (usbCalibrationConfigResponse (answers.calibrationSettings config) answers.refitted
            memory.memoryConfig).eq memory.memoryConfig = false
  | _ => False

/-- The three things that can become of the due time. -/
inductive DueFate (answers : ControlAnswers T) (memory : PersistenceState)
    (frame : Except UsbFrameError (UsbFrame T)) : Option ℕ → Prop where
  | cleared (hraw : answers.WritesRaw frame) : DueFate answers memory frame none
  | scheduled (hschedules : answers.SchedulesAnyway memory frame) :
      DueFate answers memory frame (some (debounceUntil answers.elapsedMs))
  | kept (hraw : ¬ answers.WritesRaw frame) (hschedules : ¬ answers.SchedulesAnyway memory frame) :
      DueFate answers memory frame memory.memoryCommitDueMs

variable {answers : ControlAnswers T} {memory : PersistenceState} {requestId : RequestId}

theorem dueFate_completeSetup : DueFate answers memory (.ok (.request requestId .completeSetup))
      (answers.processCompleteSetup memory).memoryCommitDueMs := by
  unfold processCompleteSetup
  split_ifs with hlocked
  · refine .kept (by simp [WritesRaw]) ?_
    rintro ⟨hunlocked, -⟩
    exact absurd (hlocked.symm.trans hunlocked) (by decide)
  · cases hsetup : memory.memoryConfig.completeSetup answers.sensorReady with
    | ok config =>
      refine .scheduled ⟨by simpa using hlocked, ?_⟩
      rw [hsetup]
      rfl
    | error error =>
      refine .kept (by simp [WritesRaw]) ?_
      rintro ⟨-, hok⟩
      rw [hsetup] at hok
      cases hok

theorem dueFate_resetPersistence :
    DueFate answers memory (.ok (.request requestId .resetPersistence))
      (answers.processResetPersistence memory).memoryCommitDueMs := by
  unfold processResetPersistence
  split_ifs with hlocked
  · refine .kept (by simp [WritesRaw]) ?_
    intro hunlocked
    exact absurd (hlocked.symm.trans hunlocked) (by decide)
  · exact .scheduled (eq_false_of_ne_true hlocked)

theorem dueFate_clearLanPairingToken :
    DueFate answers memory (.ok (.request requestId .clearLanPairingToken))
      (memory.processClearLanPairingToken answers.elapsedMs).memoryCommitDueMs := by
  unfold PersistenceState.processClearLanPairingToken
  split_ifs with hlocked
  · refine .kept (by simp [WritesRaw]) ?_
    intro hunlocked
    exact absurd (hlocked.symm.trans hunlocked) (by decide)
  · exact .scheduled (eq_false_of_ne_true hlocked)

theorem dueFate_wifiConfig {config : WifiConfigCommand} :
    DueFate answers memory (.ok (.wifiConfig requestId config))
      (memory.processWifiConfigFrame config answers.elapsedMs).memoryCommitDueMs := by
  unfold PersistenceState.processWifiConfigFrame
  split_ifs with hrefused
  · refine .kept (by simp [WritesRaw]) ?_
    rintro ⟨hop, hunlocked⟩
    rcases hrefused with hcancel | hlocked
    · exact hop hcancel
    · exact absurd (hlocked.symm.trans hunlocked) (by decide)
  · rw [not_or] at hrefused
    exact .scheduled ⟨hrefused.1, by simpa using hrefused.2⟩

/-- A runtime command that changes nothing finds nothing changed, unless the configuration does
not equal itself. -/
theorem dueFate_runtimeConfig {config : RuntimeConfigCommand T}
    (hconfig : (answers.processRuntimeConfigFrame memory config).memoryConfig =
      memory.memoryConfig) :
    DueFate answers memory (.ok (.runtimeConfig requestId config))
      (answers.processRuntimeConfigFrame memory config).memoryCommitDueMs := by
  unfold processRuntimeConfigFrame PersistenceState.processRuntimeConfigFrame at hconfig ⊢
  dsimp only at hconfig ⊢
  split_ifs at hconfig ⊢ with hrefused hsame
  · refine .kept (by simp [WritesRaw]) ?_
    rintro ⟨hvalid, hadmitted, -⟩
    exact hrefused.elim (· hvalid) (· hadmitted)
  · refine .kept (by simp [WritesRaw]) ?_
    rintro ⟨-, -, hdiffers⟩
    have hself : ((answers.runtimeSettings config).applyTo memory.memoryConfig) =
        memory.memoryConfig := hconfig
    rw [hself] at hsame
    exact absurd (hsame.symm.trans hdiffers) (by decide)
  · rw [not_or, not_not, not_not] at hrefused
    have hself : ((answers.runtimeSettings config).applyTo memory.memoryConfig) =
        memory.memoryConfig := hconfig
    rw [hself] at hsame
    exact .scheduled ⟨hrefused.1, hrefused.2, by simpa using hsame⟩

theorem dueFate_thermalTuning {command : ThermalTuningCommand T}
    (hcommits : ¬ answers.Commits memory (.ok (.thermalTuning requestId command))) :
    DueFate answers memory (.ok (.thermalTuning requestId command))
      (answers.processThermalTuningFrame memory command).memoryCommitDueMs := by
  unfold processThermalTuningFrame
  split_ifs with hop
  · exact .kept (by simp [WritesRaw]) (by simp [SchedulesAnyway])
  · cases hsealed : answers.sealedCandidate command with
    | none => exact .kept (by simp [WritesRaw]) (by simp [SchedulesAnyway])
    | some sealed =>
      refine absurd ⟨not_not.mp hop, ?_⟩ hcommits
      rw [hsealed]
      rfl

theorem dueFate_calibrationConfig {config : CalibrationConfigCommand T}
    (hcommits : ¬ answers.Commits memory (.ok (.calibrationConfig requestId config))) :
    DueFate answers memory (.ok (.calibrationConfig requestId config))
      (answers.processCalibrationConfigFrame memory config).memoryCommitDueMs := by
  have hkept : (answers.processCalibrationConfigFrame memory config).memoryCommitDueMs =
      memory.memoryCommitDueMs := by
    unfold processCalibrationConfigFrame PersistenceState.processCalibrationConfigFrame
    dsimp only
    split_ifs with hrefused hlocked hsame
    · rfl
    · rfl
    · rfl
    · exact absurd ⟨by simpa using hrefused, by simpa using hlocked, by simpa using hsame⟩ hcommits
  rw [hkept]
  exact .kept (by simp [WritesRaw]) (by simp [SchedulesAnyway])

theorem due_finishMaintenance {command : EepromMaintenanceCommand}
    (h : memory.memoryCommitDueMs = none ∨ command.op ≠ .erase) :
    (answers.finishMaintenance memory command).memoryCommitDueMs = memory.memoryCommitDueMs := by
  unfold finishMaintenance
  split
  · split_ifs with herase
    · exact (h.resolve_right (not_not.mpr herase)).symm
    · rfl
  · rfl
  · rfl

theorem dueFate_eepromMaintenance {command : EepromMaintenanceCommand} :
    DueFate answers memory (.ok (.eepromMaintenance requestId command))
      (answers.processEepromMaintenanceFrame memory command).memoryCommitDueMs := by
  unfold processEepromMaintenanceFrame
  split_ifs with hflash hheater hreads hidle
  · refine .kept ?_ (by simp [SchedulesAnyway])
    rintro ⟨-, hinactive, -⟩
    simp [hinactive] at hflash
  · refine .kept ?_ (by simp [SchedulesAnyway])
    rintro ⟨-, -, hinactive⟩
    simp [hinactive] at hheater
  · have hread : rawEepromOperationMutates command.op = false := by simpa using hreads
    have hop : command.op ≠ .erase := by
      rintro herase
      rw [herase] at hread
      cases hread
    rw [due_finishMaintenance (.inr hop)]
    refine .kept ?_ (by simp [SchedulesAnyway])
    rintro ⟨hmutates, -⟩
    exact absurd (hmutates.symm.trans hread) (by decide)
  all_goals
    have hmutates : rawEepromOperationMutates command.op = true := by simpa using hreads
    have hinactive : answers.flashPreparationActive = false := by simpa [hmutates] using hflash
    have hcleared : answers.WritesRaw (.ok (.eepromMaintenance requestId command)) :=
      ⟨hmutates, hinactive, by simpa using hheater⟩
  · exact .cleared hcleared
  · rw [due_finishMaintenance (.inl rfl)]
    exact .cleared hcleared

/-- A frame that changes nothing and commits nothing leaves the due time, but for the two kinds. -/
theorem due_dispatchControlFrame {frame : Except UsbFrameError (UsbFrame T)}
    (hconfig : (answers.dispatchControlFrame memory frame).memoryConfig = memory.memoryConfig)
    (hcommits : ¬ answers.Commits memory frame) :
    DueFate answers memory frame (answers.dispatchControlFrame memory frame).memoryCommitDueMs := by
  have hkept {frame : Except UsbFrameError (UsbFrame T)} (hraw : answers.WritesRaw frame = False)
      (hschedules : answers.SchedulesAnyway memory frame = False) :
      DueFate answers memory frame memory.memoryCommitDueMs :=
    .kept (by simp [hraw]) (by simp [hschedules])
  cases frame with
  | error error => exact hkept rfl rfl
  | ok frame =>
    cases frame with
    | request requestId op =>
      cases op with
      | completeSetup => exact dueFate_completeSetup
      | resetPersistence => exact dueFate_resetPersistence
      | clearLanPairingToken => exact dueFate_clearLanPairingToken
      | _ => exact hkept rfl rfl
    | wifiConfig requestId config => exact dueFate_wifiConfig
    | runtimeConfig requestId config => exact dueFate_runtimeConfig hconfig
    | thermalTuning requestId command => exact dueFate_thermalTuning hcommits
    | calibrationConfig requestId config => exact dueFate_calibrationConfig hcommits
    | calibrationJob requestId command =>
      have hdue : (answers.processCalibrationJobFrame memory command).memoryCommitDueMs =
          memory.memoryCommitDueMs := by
        unfold processCalibrationJobFrame
        split_ifs
        · rfl
        · rfl
      show DueFate answers memory _
        (answers.processCalibrationJobFrame memory command).memoryCommitDueMs
      rw [hdue]
      exact hkept rfl rfl
    | eepromMaintenance requestId command => exact dueFate_eepromMaintenance
    | _ => exact hkept rfl rfl

end ControlAnswers

end FluxPurr.Usb
