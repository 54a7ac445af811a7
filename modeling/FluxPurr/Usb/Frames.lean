import FluxPurr.Memory.ConfigCommands
import FluxPurr.Wire.Serde

/-!
# USB control frames

The frames that travel over the USB control channel.  The structures of the firmware that
they carry as a whole are a parameter (`WireTypes`), each with its derived JSON form; the
operations and the commands with optional fields are spelled out, for these the frame codec
takes apart.
-/

namespace FluxPurr.Usb

open FluxPurr.Wire FluxPurr.Memory

abbrev requestIdMaxLen : ℕ := 48
abbrev capabilityMaxLen : ℕ := 24
abbrev capabilityCountMax : ℕ := 16
abbrev errorCodeMaxLen : ℕ := 48
abbrev errorMessageMaxLen : ℕ := 160
abbrev eepromMaintenanceChunkMax : ℕ := 32
abbrev thermalTuningHashMaxLen : ℕ := 71
abbrev thermalTuningTargetCapacity : ℕ := 9

/-- A structure with a derived JSON form that can be relied on. -/
class WireStruct (α : Type) extends Serde α, FaithfulSerde α, NonNullSerde α

/-- The structures that a frame carries as a whole, and the single precision numbers. -/
structure WireTypes where
  F32 : Type
  Identity : Type
  CalibrationControlCommand : Type
  ThermalControlProfileCommand : Type
  CalibrationStateWire : Type
  CalibrationSlotFitWire : Type
  HeaterCurvePackageWire : Type
  InstallStatus : Type
  NetworkSummary : Type
  ControlPlaneStatus : Type
  ThermalStatusWire : Type
  LanPairingCode : Type
  WifiConfigReceipt : Type
  CalibrationJobStateWire : Type
  ThermalPlantRunSnapshotWire : Type
  ThermalTuningStatusWire : Type
  HeaterCurveStateWire : Type
  FlashPreparationStatus : Type
  [f32 : WireStruct F32]
  [identity : WireStruct Identity]
  [calibrationControlCommand : WireStruct CalibrationControlCommand]
  [thermalControlProfileCommand : WireStruct ThermalControlProfileCommand]
  [calibrationStateWire : WireStruct CalibrationStateWire]
  [calibrationSlotFitWire : WireStruct CalibrationSlotFitWire]
  [heaterCurvePackageWire : WireStruct HeaterCurvePackageWire]
  [installStatus : WireStruct InstallStatus]
  [networkSummary : WireStruct NetworkSummary]
  [controlPlaneStatus : WireStruct ControlPlaneStatus]
  [thermalStatusWire : WireStruct ThermalStatusWire]
  [lanPairingCode : WireStruct LanPairingCode]
  [wifiConfigReceipt : WireStruct WifiConfigReceipt]
  [calibrationJobStateWire : WireStruct CalibrationJobStateWire]
  [thermalPlantRunSnapshotWire : WireStruct ThermalPlantRunSnapshotWire]
  [thermalTuningStatusWire : WireStruct ThermalTuningStatusWire]
  [heaterCurveStateWire : WireStruct HeaterCurveStateWire]
  [flashPreparationStatus : WireStruct FlashPreparationStatus]

open WireTypes

attribute [instance] f32 identity calibrationControlCommand
  thermalControlProfileCommand calibrationStateWire
  calibrationSlotFitWire heaterCurvePackageWire installStatus
  networkSummary controlPlaneStatus thermalStatusWire
  lanPairingCode wifiConfigReceipt calibrationJobStateWire
  thermalPlantRunSnapshotWire thermalTuningStatusWire
  heaterCurveStateWire flashPreparationStatus

/-! ## Operations -/

inductive UsbRequestOp where
  | getIdentity
  | getInstallStatus
  | completeSetup
  | resetPersistence
  | getNetwork
  | getStatus
  | getThermalStatus
  | getLanPairingCode
  | openLanPairingWindow
  | closeLanPairingWindow
  | getCalibration
  | getCalibrationJob
  | getHeaterCurve
  | getThermalTuning
  | setLogLevel
  | clearLanPairingToken
  | prepareFlash
  | getFlashPreparation
  | cancelFlashPreparation
deriving DecidableEq, Repr

inductive CalibrationConfigOp where
  | capture
  | delete
  | clear
  | import
  | setActiveSlot
  | setSlotFit
deriving DecidableEq, Repr

inductive CalibrationJobOp where
  | start
  | cancel
deriving DecidableEq, Repr

inductive HeaterCurveConfigOp where
  | preview
  | clearPreview
deriving DecidableEq, Repr

inductive ThermalTuningCommandOp where
  | start
  | cancel
  | seal
  | confirmSave
  | read
deriving DecidableEq, Repr

inductive EepromMaintenanceOp where
  | read
  | write
  | erase
deriving DecidableEq, Repr

inductive ThermalTuningPowerClass where
  | pps3a
  | pps5a
deriving DecidableEq, Repr

inductive CalibrationChannelWire where
  | rtdAdc
  | vinAdc
deriving DecidableEq, Repr

inductive CalibrationSlotIdWire where
  | a
  | b
deriving DecidableEq, Repr

inductive CalibrationJobKindWire where
  | vinAdcAuto
  | thermalPlantAuto
deriving DecidableEq, Repr

/-! ## Commands -/

/-- `Option<usize>` fields are 32 bits wide on this target. -/
structure RuntimeConfigCommand (T : WireTypes) where
  targetTempC : Option Int16 := none
  selectedPresetSlot : Option UInt32 := none
  presetsC : Option (Vector (Option Int16) frontpanelPresetCount) := none
  activeCoolingEnabled : Option Bool := none
  postHeatCoolingMode : Option PostHeatCoolingMode := none
  heatingFanGuardMode : Option HeatingFanGuardMode := none
  heaterEnabled : Option Bool := none
  manualPpsEnabled : Option Bool := none
  manualPpsMv : Option UInt16 := none
  manualPpsMa : Option UInt16 := none
  faultAttentionAcknowledged : Option Bool := none
  calibration : Option T.CalibrationControlCommand := none
  thermalProfileMode : Option ThermalProfileMode := none
  thermalControlProfile : Option T.ThermalControlProfileCommand := none

structure ThermalTuningCommand (T : WireTypes) where
  op : ThermalTuningCommandOp
  runId : Option (BoundedString requestIdMaxLen) := none
  candidateId : Option (BoundedString requestIdMaxLen) := none
  candidateHash : Option (BoundedString thermalTuningHashMaxLen) := none
  powerClass : Option ThermalTuningPowerClass := none
  targetsC : Option (BoundedVec Int16 thermalTuningTargetCapacity) := none
  afterSequence : Option UInt32 := none
  candidateProfile : Option T.ThermalControlProfileCommand := none

structure CalibrationConfigCommand (T : WireTypes) where
  op : CalibrationConfigOp
  channel : Option CalibrationChannelWire := none
  referenceTempC : Option T.F32 := none
  referenceVinMv : Option UInt32 := none
  targetAdcMv : Option UInt16 := none
  observedMv : Option UInt16 := none
  expectedMv : Option UInt16 := none
  sampleIndex : Option UInt32 := none
  state : Option T.CalibrationStateWire := none
  slot : Option CalibrationSlotIdWire := none
  fit : Option T.CalibrationSlotFitWire := none

structure CalibrationJobCommandWire where
  op : CalibrationJobOp
  kind : Option CalibrationJobKindWire := none

structure HeaterCurveConfigCommand (T : WireTypes) where
  op : HeaterCurveConfigOp
  package : Option T.HeaterCurvePackageWire := none

structure EepromMaintenanceCommand where
  op : EepromMaintenanceOp
  offset : Option UInt16 := none
  length : Option UInt8 := none
  bytes : Option (BoundedVec UInt8 eepromMaintenanceChunkMax) := none

structure ApiError where
  code : BoundedString errorCodeMaxLen
  message : BoundedString errorMessageMaxLen
  retryable : Bool
deriving DecidableEq

/-! ## Frames -/

inductive UsbResponsePayload (T : WireTypes) where
  | identity (identity : T.Identity)
  | installStatus (status : T.InstallStatus)
  | network (network : T.NetworkSummary)
  | status (status : T.ControlPlaneStatus)
  | thermalStatus (status : T.ThermalStatusWire)
  | lanPairingCode (code : T.LanPairingCode)
  | wifi (receipt : T.WifiConfigReceipt)
  | calibration (state : T.CalibrationStateWire)
  | calibrationJob (job : T.CalibrationJobStateWire)
  | thermalPlantRun (run : T.ThermalPlantRunSnapshotWire)
  | thermalTuning (status : T.ThermalTuningStatusWire)
  | heaterCurve (curve : T.HeaterCurveStateWire)
  | eepromBytes (bytes : BoundedVec UInt8 eepromMaintenanceChunkMax)
  | flashPreparation (status : T.FlashPreparationStatus)
  | ack

inductive UsbFrame (T : WireTypes) where
  | hello (protocolVersion : BoundedString 24) (framing : BoundedString 8) (identity : T.Identity)
      (capabilities : BoundedVec (BoundedString capabilityMaxLen) capabilityCountMax)
  | request (requestId : BoundedString requestIdMaxLen) (op : UsbRequestOp)
  | wifiConfig (requestId : BoundedString requestIdMaxLen) (config : WifiConfigCommand)
  | runtimeConfig (requestId : BoundedString requestIdMaxLen) (config : RuntimeConfigCommand T)
  | thermalTuning (requestId : BoundedString requestIdMaxLen) (command : ThermalTuningCommand T)
  | calibrationConfig (requestId : BoundedString requestIdMaxLen)
      (config : CalibrationConfigCommand T)
  | calibrationJob (requestId : BoundedString requestIdMaxLen) (command : CalibrationJobCommandWire)
  | thermalPlantRun (requestId : BoundedString requestIdMaxLen) (afterSample : UInt8)
  | heaterCurveConfig (requestId : BoundedString requestIdMaxLen)
      (config : HeaterCurveConfigCommand T)
  | heaterCurveSave (requestId : BoundedString requestIdMaxLen)
  | eepromMaintenance (requestId : BoundedString requestIdMaxLen)
      (command : EepromMaintenanceCommand)
  | response (requestId : BoundedString requestIdMaxLen) (ok : Bool)
      (result : Option (UsbResponsePayload T)) (error : Option ApiError)
  | status (status : T.ControlPlaneStatus)
  | log (level : BoundedString 8) (message : BoundedString errorMessageMaxLen)
  | error (requestId : Option (BoundedString requestIdMaxLen)) (error : ApiError)

inductive UsbFrameError where
  | malformedJson
  | outputTooSmall
deriving DecidableEq, Repr

end FluxPurr.Usb
