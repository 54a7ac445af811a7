import FluxPurr.Memory.Config

/-!
# The persistence domains

A snapshot of the configuration is stored as five independent domains, each with
its own records; a sixth domain holds the layout markers that publish a snapshot.
`fromConfig` projects a domain out of a configuration.
-/

namespace FluxPurr.Memory

open FluxPurr.Supply

inductive PersistDomain where
  | safetyCalibration
  | thermalPolicy
  | userPreferences
  | networkAndPairing
  | layoutMarker
  | thermalPlant
deriving DecidableEq, Repr

namespace PersistDomain

/-- `domain as u8`. -/
def toWire : PersistDomain → UInt8
  | safetyCalibration => 1
  | thermalPolicy => 2
  | userPreferences => 3
  | networkAndPairing => 4
  | layoutMarker => 5
  | thermalPlant => 6

def fromWire (value : UInt8) : Option PersistDomain :=
  if value = 1 then some safetyCalibration
  else if value = 2 then some thermalPolicy
  else if value = 3 then some userPreferences
  else if value = 4 then some networkAndPairing
  else if value = 5 then some layoutMarker
  else if value = 6 then some thermalPlant
  else none

theorem fromWire_toWire (domain : PersistDomain) : fromWire domain.toWire = some domain := by
  cases domain <;> rfl

def slotSize : PersistDomain → ℕ
  | safetyCalibration => 512
  | thermalPolicy => 768
  | userPreferences => 128
  | networkAndPairing => 256
  | layoutMarker => 128
  | thermalPlant => 768

end PersistDomain

/-! ## The domains -/

structure SafetyCalibration where
  commissioningRequired : Bool := true
  adcCalibration : AdcCalibrationConfig := {}
  activeHeaterCurve : HeaterCurveConfig := {}
  heaterCurveRawObservations : HeaterCurveRawObservations := {}
  heaterCurveTransactionId : Option UInt32 := none
deriving DecidableEq

structure ThermalPolicy where
  pps3aProfile : ThermalControlProfileConfig := {}
  pps5aProfile : ThermalControlProfileConfig := {}
  mode : ThermalProfileMode := .auto
deriving DecidableEq

structure ThermalPlantPersistence where
  active : Option ThermalPlantTransientTransaction := none
  supplyBoundary : Option SupplyBoundary := none
deriving DecidableEq

structure UserPreferences where
  targetTempC : Int16 := 100
  selectedPresetSlot : ℕ := 1
  presetsC : Vector (Option Int16) frontpanelPresetCount := defaultPresetsC
  activeCoolingEnabled : Bool := true
  postHeatCoolingMode : PostHeatCoolingMode := .normal
  heatingFanGuardMode : HeatingFanGuardMode := .medium
  telemetryIntervalMs : UInt32 := 500
deriving DecidableEq

structure NetworkAndPairing where
  wifiSsid : BoundedString memoryWifiSsidMaxLen := .empty _
  wifiPassword : BoundedString memoryWifiPasswordMaxLen := .empty _
  wifiAutoReconnect : Bool := true
  wifiStaticIpv4 : Option WifiStaticIpv4Config := none
  lanPairingToken : Option (Vector UInt8 lanTokenBytes) := none
deriving DecidableEq

inductive LayoutMarkerStatus where
  | prepared
  | active
deriving DecidableEq, Repr

inductive LayoutMarkerKind where
  | commit
  | legacyMigration
deriving DecidableEq, Repr

structure LayoutMarker where
  generation : UInt32 := 0
  status : LayoutMarkerStatus := .prepared
  kind : LayoutMarkerKind := .legacyMigration
deriving DecidableEq, Repr

inductive PersistDomainData where
  | safetyCalibration (value : SafetyCalibration)
  | thermalPolicy (value : ThermalPolicy)
  | userPreferences (value : UserPreferences)
  | networkAndPairing (value : NetworkAndPairing)
  | layoutMarker (value : LayoutMarker)
  | thermalPlant (value : ThermalPlantPersistence)
deriving DecidableEq

def PersistDomainData.domain : PersistDomainData → PersistDomain
  | safetyCalibration _ => .safetyCalibration
  | thermalPolicy _ => .thermalPolicy
  | userPreferences _ => .userPreferences
  | networkAndPairing _ => .networkAndPairing
  | layoutMarker _ => .layoutMarker
  | thermalPlant _ => .thermalPlant

structure PersistRecord where
  sequence : UInt32
  data : PersistDomainData
deriving DecidableEq

/-! ## From a configuration -/

namespace SafetyCalibration

def fromConfig (config : MemoryConfig) : SafetyCalibration :=
  { commissioningRequired := config.commissioningRequired
    adcCalibration := config.adcCalibration
    activeHeaterCurve := config.activeHeaterCurve
    heaterCurveRawObservations := config.heaterCurveRawObservations
    heaterCurveTransactionId := config.heaterCurveTransactionId }

end SafetyCalibration

namespace ThermalPlantPersistence

def fromConfig (config : MemoryConfig) : ThermalPlantPersistence :=
  let boundary := config.heaterSupplyBoundary.filter fun boundary => decide boundary.IsValid
  { active := (boundary.bind fun _ => config.thermalPlantTransientActive).filter
      thermalPlantTransientTransactionHasValidStructure
    supplyBoundary := boundary }

end ThermalPlantPersistence

/-- The stored profile keeps the inherited values with its points, so a profile
with points keeps only its global settings. -/
def canonicalProfileForPersistence (profile : ThermalControlProfileConfig) :
    ThermalControlProfileConfig :=
  let profile := sanitizeThermalControlProfile profile
  if profile.points.any Option.isSome then
    { profile with settings := profile.settings.globalsOnly }
  else profile

namespace ThermalPolicy

def fromConfig (config : MemoryConfig) : ThermalPolicy :=
  { pps3aProfile := canonicalProfileForPersistence config.activeThermalControlProfile
    pps5aProfile := canonicalProfileForPersistence config.thermalControlProfilePps5a
    mode := config.thermalProfileMode }

def applyToConfig (value : ThermalPolicy) (config : MemoryConfig) : MemoryConfig :=
  { config with
    activeThermalControlProfile := value.pps3aProfile
    thermalControlProfilePps5a := value.pps5aProfile
    thermalProfileMode := value.mode }

end ThermalPolicy

/-- An inconsistent pair of mode and compatibility flag is normalized before it is
encoded. -/
def persistedPostHeatCoolingMode (config : MemoryConfig) : PostHeatCoolingMode :=
  match config.postHeatCoolingMode, config.activeCoolingEnabled with
  | .normal, false => .off
  | .off, true => .normal
  | mode, _ => mode

namespace UserPreferences

def fromConfig (config : MemoryConfig) : UserPreferences :=
  { targetTempC := config.targetTempC
    selectedPresetSlot := config.selectedPresetSlot
    presetsC := config.presetsC
    activeCoolingEnabled := config.activeCoolingEnabled
    postHeatCoolingMode := persistedPostHeatCoolingMode config
    heatingFanGuardMode := config.heatingFanGuardMode
    telemetryIntervalMs := config.telemetryIntervalMs }

end UserPreferences

namespace NetworkAndPairing

def fromConfig (config : MemoryConfig) : NetworkAndPairing :=
  { wifiSsid := config.wifiSsid
    wifiPassword := config.wifiPassword
    wifiAutoReconnect := config.wifiAutoReconnect
    wifiStaticIpv4 := config.wifiStaticIpv4
    lanPairingToken := config.lanPairingToken }

end NetworkAndPairing

/-! ## Snapshots -/

/-- The domains a snapshot consists of, in the order they are checked. -/
def fpr2SnapshotDomains : List PersistDomain :=
  [.safetyCalibration, .thermalPolicy, .userPreferences, .networkAndPairing, .thermalPlant]

/-- `D::from_config` for the domain `D`; the layout marker is not a part of the
configuration. -/
def PersistDomain.dataOf (config : MemoryConfig) : PersistDomain → Option PersistDomainData
  | safetyCalibration => some (.safetyCalibration (.fromConfig config))
  | thermalPolicy => some (.thermalPolicy (.fromConfig config))
  | userPreferences => some (.userPreferences (.fromConfig config))
  | networkAndPairing => some (.networkAndPairing (.fromConfig config))
  | layoutMarker => none
  | thermalPlant => some (.thermalPlant (.fromConfig config))

end FluxPurr.Memory
