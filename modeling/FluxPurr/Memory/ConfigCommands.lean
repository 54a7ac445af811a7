import FluxPurr.Memory.DomainMask
import FluxPurr.Memory.LegacyCodec

/-!
# Commands that edit the configuration

What the front panel, the control interfaces, the tuning and the plant calibration write
into the running configuration.  The numeric fits are inputs here: a transaction that the
plant fit may or may not find for the samples of a record.
-/

namespace FluxPurr.Memory

open FluxPurr.Supply

/-! ## The front panel -/

/-- What of the front panel's state is persisted. -/
structure FrontPanelSettings where
  targetTempC : Int16
  selectedPresetSlot : ℕ
  presetsC : Vector (Option Int16) frontpanelPresetCount
  activeCoolingEnabled : Bool
  postHeatCoolingMode : PostHeatCoolingMode
  heatingFanGuardMode : HeatingFanGuardMode

def memoryConfigFromUi (state : FrontPanelSettings) (previous : MemoryConfig) : MemoryConfig :=
  { previous with
    targetTempC := state.targetTempC
    selectedPresetSlot := state.selectedPresetSlot
    presetsC := state.presetsC
    activeCoolingEnabled := state.activeCoolingEnabled
    postHeatCoolingMode := state.postHeatCoolingMode
    heatingFanGuardMode := state.heatingFanGuardMode }

/-! ## Wi-Fi -/

inductive WifiConfigOp where
  | set
  | clear
  | cancel
deriving DecidableEq, Repr

structure WifiConfigCommand where
  op : WifiConfigOp
  ssid : Option (BoundedString memoryWifiSsidMaxLen) := none
  password : Option (BoundedString memoryWifiPasswordMaxLen) := none
  /-- `some none` goes back to DHCP. -/
  staticIpv4 : Option (Option WifiStaticIpv4Config) := none
  telemetryIntervalMs : Option UInt32 := none

def WifiConfigCommand.applyTo (command : WifiConfigCommand) (config : MemoryConfig) :
    MemoryConfig :=
  MemoryConfig.sanitize <|
    match command.op with
    | .clear =>
        { config with wifiSsid := .empty _, wifiPassword := .empty _, wifiStaticIpv4 := none }
    | .cancel => config
    | .set =>
        { config with
          wifiSsid := command.ssid.getD (.empty _)
          wifiPassword := command.password.getD config.wifiPassword
          wifiStaticIpv4 := command.staticIpv4.getD config.wifiStaticIpv4
          telemetryIntervalMs :=
            (command.telemetryIntervalMs.map fun interval =>
              if interval = 0 then 1 else interval).getD config.telemetryIntervalMs }

/-! ## Runtime configuration -/

inductive ThermalProfileBank where
  | pps3a
  | pps5a
deriving DecidableEq, Repr

def ThermalProfileMode.defaultBank : ThermalProfileMode → ThermalProfileBank
  | w100 => .pps5a
  | auto | w65 => .pps3a

/-- An assignment through `thermal_profile_mut`. -/
def MemoryConfig.setThermalProfile (config : MemoryConfig) (bank : ThermalProfileBank)
    (profile : ThermalControlProfileConfig) : MemoryConfig :=
  match bank with
  | .pps3a => { config with activeThermalControlProfile := profile }
  | .pps5a => { config with thermalControlProfilePps5a := profile }

inductive ThermalControlProfileOp where
  | preview
  | clearPreview
  | save
  | clearSaved
deriving DecidableEq, Repr

structure ThermalControlProfileCommand where
  op : ThermalControlProfileOp
  bank : Option ThermalProfileBank := none
  profile : Option ThermalControlProfileConfig := none

/-- A profile that has to be there is there, and one that must not be is not. -/
def ThermalControlProfileCommand.isWellFormed (command : ThermalControlProfileCommand) : Bool :=
  match command.op with
  | .preview | .save => command.profile.isSome
  | .clearPreview | .clearSaved => command.profile.isNone

def applyThermalProfileCommand (config : MemoryConfig) (command : ThermalControlProfileCommand) :
    MemoryConfig :=
  let bank := command.bank.getD config.thermalProfileMode.defaultBank
  match command.op with
  | .save => (command.profile.map (config.setThermalProfile bank)).getD config
  | .clearSaved => config.setThermalProfile bank {}
  | .preview | .clearPreview => config

structure RuntimeConfigCommand where
  targetTempC : Option Int16 := none
  selectedPresetSlot : Option ℕ := none
  presetsC : Option (Vector (Option Int16) frontpanelPresetCount) := none
  activeCoolingEnabled : Option Bool := none
  postHeatCoolingMode : Option PostHeatCoolingMode := none
  heatingFanGuardMode : Option HeatingFanGuardMode := none
  thermalProfileMode : Option ThermalProfileMode := none
  thermalControlProfile : Option ThermalControlProfileCommand := none

namespace RuntimeConfigCommand

variable (command : RuntimeConfigCommand)

def fanPolicyConflicts : Bool :=
  match command.activeCoolingEnabled, command.postHeatCoolingMode with
  | some legacy, some mode => legacy ≠ mode.isEnabled
  | _, _ => false

/-- The checks of `runtime_config_validation` on the fields above. -/
def isValid : Bool :=
  !command.fanPolicyConflicts &&
    command.thermalControlProfile.all ThermalControlProfileCommand.isWellFormed

/-- The target follows new presets, unless the command has one itself. -/
def applyPresets (config : MemoryConfig) : MemoryConfig :=
  match command.presetsC with
  | none => config
  | some presets =>
      { config with
        presetsC := presets
        targetTempC :=
          if command.targetTempC = none then
            (presets[config.selectedPresetSlot]?.join).getD config.targetTempC
          else config.targetTempC }

def applyCooling (config : MemoryConfig) : MemoryConfig :=
  match command.postHeatCoolingMode, command.activeCoolingEnabled with
  | some mode, _ =>
      { config with postHeatCoolingMode := mode, activeCoolingEnabled := mode.isEnabled }
  | none, some enabled =>
      { config with
        activeCoolingEnabled := enabled
        postHeatCoolingMode := .fromLegacy enabled }
  | none, none => config

def applyTo (config : MemoryConfig) : MemoryConfig :=
  let config :=
    { config with
      targetTempC := command.targetTempC.getD config.targetTempC
      selectedPresetSlot := command.selectedPresetSlot.getD config.selectedPresetSlot }
  let config := command.applyCooling (command.applyPresets config)
  let config :=
    { config with
      heatingFanGuardMode := command.heatingFanGuardMode.getD config.heatingFanGuardMode
      thermalProfileMode := command.thermalProfileMode.getD config.thermalProfileMode }
  MemoryConfig.sanitize <|
    (command.thermalControlProfile.map (applyThermalProfileCommand config)).getD config

end RuntimeConfigCommand

/-! ## Calibration -/

namespace AdcCalibrationChannelConfig

/-- `none` when all places are taken. -/
def insert (config : AdcCalibrationChannelConfig) (sample : AdcCalibrationSample) :
    Option AdcCalibrationChannelConfig :=
  (config.samples.toList.findIdx? Option.isNone).map fun index =>
    { config with samples := config.samples.setIfInBounds index (some sample) }

/-- `none` when there is no sample at the index. -/
def delete (config : AdcCalibrationChannelConfig) (index : ℕ) :
    Option AdcCalibrationChannelConfig :=
  if config.samples[index]?.join = none then none
  else some { config with samples := config.samples.setIfInBounds index none }

def clear (config : AdcCalibrationChannelConfig) : AdcCalibrationChannelConfig :=
  { config with samples := Vector.replicate adcCalibrationMaxSamples none }

def setSlotFit (config : AdcCalibrationChannelConfig) (slot : AdcCalibrationSlotId)
    (fit : AdcCalibrationSlotFit) : AdcCalibrationChannelConfig :=
  match slot with
  | .a => { config with slots := { config.slots with a := fit } }
  | .b => { config with slots := { config.slots with b := fit } }

end AdcCalibrationChannelConfig

def AdcCalibrationConfig.channel (config : AdcCalibrationConfig) :
    AdcCalibrationChannel → AdcCalibrationChannelConfig
  | .rtd => config.rtd
  | .vin => config.vin

/-- An assignment through `channel_mut`. -/
def MemoryConfig.setChannel (config : MemoryConfig) (channel : AdcCalibrationChannel)
    (value : AdcCalibrationChannelConfig) : MemoryConfig :=
  { config with
    adcCalibration :=
      match channel with
      | .rtd => { config.adcCalibration with rtd := value }
      | .vin => { config.adcCalibration with vin := value } }

inductive CalibrationConfigOp where
  | capture
  | delete
  | clear
  | importState
  | setActiveSlot
  | setSlotFit
deriving DecidableEq, Repr

structure CalibrationConfigCommand where
  op : CalibrationConfigOp
  channel : Option AdcCalibrationChannel := none
  /-- What a capture reads for the channel: the live or given reading with its
  reference, if there is one. -/
  sample : Option AdcCalibrationSample := none
  sampleIndex : Option ℕ := none
  state : Option AdcCalibrationConfig := none
  slot : Option AdcCalibrationSlotId := none
  fit : Option AdcCalibrationSlotFit := none

/-- `ok_or(ApiError)?`, with the code of the error. -/
def required {α : Type} (value : Option α) (code : String) : Except String α :=
  value.elim (.error code) .ok

/-- A refused command has changed nothing; the error is its code. -/
def applyCalibrationConfigCommand (command : CalibrationConfigCommand) (config : MemoryConfig) :
    Except String MemoryConfig :=
  match command.op with
  | .capture => do
      let channel ← required command.channel "calibration_channel_required"
      let sample ← required command.sample "calibration_reference_required"
      let value ← required ((config.adcCalibration.channel channel).insert sample)
        "calibration_samples_full"
      return config.setChannel channel value
  | .delete => do
      let channel ← required command.channel "calibration_channel_required"
      let index ← required command.sampleIndex "calibration_index_required"
      let value ← required ((config.adcCalibration.channel channel).delete index)
        "calibration_sample_not_found"
      return config.setChannel channel value
  | .clear => do
      let channel ← required command.channel "calibration_channel_required"
      return config.setChannel channel (config.adcCalibration.channel channel).clear
  | .importState => do
      let state ← required command.state "calibration_state_required"
      return { config with adcCalibration := state }
  | .setActiveSlot => do
      let channel ← required command.channel "calibration_channel_required"
      let slot ← required command.slot "calibration_slot_required"
      return config.setChannel channel
        { config.adcCalibration.channel channel with activeSlot := slot }
  | .setSlotFit => do
      let channel ← required command.channel "calibration_channel_required"
      let slot ← required command.slot "calibration_slot_required"
      let fit ← required command.fit "calibration_fit_required"
      return config.setChannel channel
        ((config.adcCalibration.channel channel).setSlotFit slot fit)

/-- A record whose samples can no longer be fitted keeps them under a projection of
zeros. -/
def ThermalPlantTransientTransaction.withoutProjection (value : ThermalPlantTransientTransaction) :
    ThermalPlantTransientTransaction :=
  { value with
    projection :=
      { convectionMwPerCBits := 0
        radiationMwPerK4Bits := 0
        thermalCapacityMjPerCBits := 0
        transportDelayMs := 0 } }

/-- `refitted` is what the plant fit makes of the samples of the active record. -/
def rebuildTransientThermalPlantForCurrentInputs
    (refitted : Option ThermalPlantTransientTransaction) (config : MemoryConfig) : MemoryConfig :=
  if config.heaterSupplyBoundary.any fun boundary => decide boundary.IsValid then
    { config with
      thermalPlantTransientActive := config.thermalPlantTransientActive.map fun previous =>
        refitted.getD previous.withoutProjection }
  else { config with thermalPlantTransientActive := none }

/-- The configuration after `usb_calibration_config_response`. -/
def usbCalibrationConfigResponse (command : CalibrationConfigCommand)
    (refitted : Option ThermalPlantTransientTransaction) (config : MemoryConfig) : MemoryConfig :=
  match applyCalibrationConfigCommand command config with
  | .error _ => config
  | .ok applied =>
      if applied.sanitize.adcCalibration.eq config.adcCalibration then applied.sanitize
      else rebuildTransientThermalPlantForCurrentInputs refitted applied.sanitize

/-- The configuration after `complete_thermal_plant_calibration`, for the boundary of the
supply scan and the transaction that was fitted and compacted, if it is complete. -/
def completeThermalPlantCalibration (boundary : Option SupplyBoundary)
    (fitted : Option ThermalPlantTransientTransaction) (config : MemoryConfig) : MemoryConfig :=
  match boundary.filter (fun boundary => decide boundary.IsValid), fitted with
  | some boundary, some transaction =>
      MemoryConfig.sanitize
        { config with
          activeHeaterCurve := {}
          heaterCurveRawObservations := {}
          heaterCurveTransactionId := none
          heaterSupplyBoundary := some boundary
          thermalPlantTransientActive := some transaction
          thermalPlantActive := none }
  | _, _ => config

/-! ## Calibrations stay numbers -/

variable {config : MemoryConfig}

theorem usbCalibrationConfigResponse_fitsAreNumbers (command : CalibrationConfigCommand)
    (refitted : Option ThermalPlantTransientTransaction) (h : config.FitsAreNumbers) :
    (usbCalibrationConfigResponse command refitted config).FitsAreNumbers := by
  unfold usbCalibrationConfigResponse
  split
  · exact h
  · rename_i applied _
    have hsanitized := applied.sanitize_fitsAreNumbers
    split_ifs
    · exact hsanitized
    · unfold rebuildTransientThermalPlantForCurrentInputs
      split_ifs <;> exact hsanitized

theorem completeThermalPlantCalibration_fitsAreNumbers (boundary : Option SupplyBoundary)
    (fitted : Option ThermalPlantTransientTransaction) (h : config.FitsAreNumbers) :
    (completeThermalPlantCalibration boundary fitted config).FitsAreNumbers := by
  unfold completeThermalPlantCalibration
  split
  · exact MemoryConfig.sanitize_fitsAreNumbers _
  · exact h

theorem MemoryConfig.FitsAreNumbers.setThermalProfile (h : config.FitsAreNumbers)
    (bank : ThermalProfileBank) (profile : ThermalControlProfileConfig) :
    (config.setThermalProfile bank profile).FitsAreNumbers := by
  cases bank <;> exact h

end FluxPurr.Memory
