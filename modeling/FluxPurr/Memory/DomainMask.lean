import FluxPurr.Memory.PersistDomain

/-!
# Changed domains

The running configuration is compared with the one that was last written, domain by
domain, and only the changed domains are written.  `persistDomainMaskBetween` makes the
comparison with the language's `==`, for which a NaN differs from itself, so it is only
for configurations whose calibration is made of numbers (`FitsAreNumbers`, which
`sanitize` establishes) that a domain that has just been copied no longer differs
(`persistDomainMaskBetween_copyPersistedDomains`).
-/

namespace FluxPurr.Memory

/-! ## Equality of the language -/

def AdcCalibrationSlotFit.eq (x y : AdcCalibrationSlotFit) : Bool :=
  x.gain.eq y.gain && x.offsetMv.eq y.offsetMv

def AdcCalibrationChannelConfig.eq (x y : AdcCalibrationChannelConfig) : Bool :=
  decide (x.samples = y.samples) && x.slots.a.eq y.slots.a && x.slots.b.eq y.slots.b &&
    decide (x.activeSlot = y.activeSlot)

def AdcCalibrationConfig.eq (x y : AdcCalibrationConfig) : Bool := x.rtd.eq y.rtd && x.vin.eq y.vin

/-- Apart from the calibration there are no floating point numbers in a configuration. -/
def MemoryConfig.eq (x y : MemoryConfig) : Bool :=
  x.adcCalibration.eq y.adcCalibration &&
    decide ({ x with adcCalibration := y.adcCalibration } = y)

/-! ## Masks -/

/-- The bits of `PersistDomainMask` by the domains they stand for. -/
abbrev PersistDomainMask := PersistDomain → Bool

namespace PersistDomainMask

def safety : PersistDomainMask := (· = .safetyCalibration)
def thermal : PersistDomainMask := (· = .thermalPolicy)
def thermalPlant : PersistDomainMask := (· = .thermalPlant)

def includes (mask : PersistDomainMask) (domain : PersistDomain) : Bool := mask domain

def isEmpty (mask : PersistDomainMask) : Bool := fpr2SnapshotDomains.all fun domain => !mask domain

def union (mask other : PersistDomainMask) : PersistDomainMask :=
  fun domain => mask domain || other domain

end PersistDomainMask

def persistDomainMaskBetween (current persisted : MemoryConfig) : PersistDomainMask
  | .safetyCalibration =>
      current.commissioningRequired ≠ persisted.commissioningRequired ∨
        !current.adcCalibration.eq persisted.adcCalibration ∨
        current.activeHeaterCurve ≠ persisted.activeHeaterCurve ∨
        current.heaterCurveRawObservations ≠ persisted.heaterCurveRawObservations ∨
        current.heaterCurveTransactionId ≠ persisted.heaterCurveTransactionId
  | .thermalPlant =>
      current.thermalPlantTransientActive ≠ persisted.thermalPlantTransientActive ∨
        current.heaterSupplyBoundary ≠ persisted.heaterSupplyBoundary
  | .thermalPolicy =>
      current.activeThermalControlProfile ≠ persisted.activeThermalControlProfile ∨
        current.thermalControlProfilePps5a ≠ persisted.thermalControlProfilePps5a ∨
        current.thermalProfileMode ≠ persisted.thermalProfileMode
  | .userPreferences =>
      current.targetTempC ≠ persisted.targetTempC ∨
        current.selectedPresetSlot ≠ persisted.selectedPresetSlot ∨
        current.presetsC ≠ persisted.presetsC ∨
        current.activeCoolingEnabled ≠ persisted.activeCoolingEnabled ∨
        current.postHeatCoolingMode ≠ persisted.postHeatCoolingMode ∨
        current.heatingFanGuardMode ≠ persisted.heatingFanGuardMode ∨
        current.telemetryIntervalMs ≠ persisted.telemetryIntervalMs
  | .networkAndPairing =>
      current.wifiSsid ≠ persisted.wifiSsid ∨
        current.wifiPassword ≠ persisted.wifiPassword ∨
        current.wifiAutoReconnect ≠ persisted.wifiAutoReconnect ∨
        current.wifiStaticIpv4 ≠ persisted.wifiStaticIpv4 ∨
        current.lanPairingToken ≠ persisted.lanPairingToken
  | .layoutMarker => false

/-- The fields of the domain, taken from `current`. -/
def PersistDomain.copied (domain : PersistDomain) (persisted current : MemoryConfig) :
    MemoryConfig :=
  match domain with
  | .safetyCalibration =>
      { persisted with
        commissioningRequired := current.commissioningRequired
        adcCalibration := current.adcCalibration
        activeHeaterCurve := current.activeHeaterCurve
        heaterCurveRawObservations := current.heaterCurveRawObservations
        heaterCurveTransactionId := current.heaterCurveTransactionId }
  | .thermalPlant =>
      { persisted with
        thermalPlantTransientActive := current.thermalPlantTransientActive
        heaterSupplyBoundary := current.heaterSupplyBoundary }
  | .thermalPolicy =>
      { persisted with
        activeThermalControlProfile := current.activeThermalControlProfile
        thermalControlProfilePps5a := current.thermalControlProfilePps5a
        thermalProfileMode := current.thermalProfileMode }
  | .userPreferences =>
      { persisted with
        targetTempC := current.targetTempC
        selectedPresetSlot := current.selectedPresetSlot
        presetsC := current.presetsC
        activeCoolingEnabled := current.activeCoolingEnabled
        postHeatCoolingMode := current.postHeatCoolingMode
        heatingFanGuardMode := current.heatingFanGuardMode
        telemetryIntervalMs := current.telemetryIntervalMs }
  | .networkAndPairing =>
      { persisted with
        wifiSsid := current.wifiSsid
        wifiPassword := current.wifiPassword
        wifiAutoReconnect := current.wifiAutoReconnect
        wifiStaticIpv4 := current.wifiStaticIpv4
        lanPairingToken := current.lanPairingToken }
  | .layoutMarker => persisted

/-- The order in which `copy_persisted_domains` looks at the domains. -/
def copiedDomains : List PersistDomain :=
  [.safetyCalibration, .thermalPlant, .thermalPolicy, .userPreferences, .networkAndPairing]

def copyPersistedDomains (persisted current : MemoryConfig) (domains : PersistDomainMask) :
    MemoryConfig :=
  copiedDomains.foldl (fun persisted domain =>
    if domains.includes domain then domain.copied persisted current else persisted) persisted

/-! ## Configurations whose calibration is made of numbers -/

def AdcCalibrationSlotFit.IsNumber (fit : AdcCalibrationSlotFit) : Prop :=
  fit.gain.isNan = false ∧ fit.offsetMv.isNan = false

def AdcCalibrationSlots.AreNumbers (slots : AdcCalibrationSlots) : Prop :=
  slots.a.IsNumber ∧ slots.b.IsNumber

/-- No fit of the calibration is a NaN. -/
def MemoryConfig.FitsAreNumbers (config : MemoryConfig) : Prop :=
  config.adcCalibration.rtd.slots.AreNumbers ∧ config.adcCalibration.vin.slots.AreNumbers

variable {config current persisted : MemoryConfig} {domains : PersistDomainMask}
  {domain other : PersistDomain}

theorem sanitizeChannelSlotFit_isNumber (fit : AdcCalibrationSlotFit) :
    (sanitizeChannelSlotFit fit).IsNumber := by
  constructor
  · simp only [sanitizeChannelSlotFit]
    split_ifs with hgain
    · rfl
    · simp only [Bool.or_eq_true, Bool.not_eq_true', not_or, Bool.not_eq_false] at hgain
      exact F32.isNan_eq_false_of_isFinite hgain.1
  · simp only [sanitizeChannelSlotFit]
    split_ifs with hoffset
    · rfl
    · exact F32.isNan_eq_false_of_isFinite (by simpa using hoffset)

theorem MemoryConfig.sanitize_fitsAreNumbers (config : MemoryConfig) :
    config.sanitize.FitsAreNumbers := by
  have hslots : ∀ slots, (sanitizeSlots slots).AreNumbers := fun slots =>
    ⟨sanitizeChannelSlotFit_isNumber slots.a, sanitizeChannelSlotFit_isNumber slots.b⟩
  exact ⟨hslots _, hslots _⟩

/-! ## Copying domains -/

theorem AdcCalibrationSlotFit.eq_self {fit : AdcCalibrationSlotFit} (h : fit.IsNumber) :
    fit.eq fit = true := by
  rw [eq, F32.eq_self h.1, F32.eq_self h.2, Bool.and_self]

theorem AdcCalibrationConfig.eq_self (h : config.FitsAreNumbers) :
    config.adcCalibration.eq config.adcCalibration = true := by
  simp [eq, AdcCalibrationChannelConfig.eq, AdcCalibrationSlotFit.eq_self h.1.1,
    AdcCalibrationSlotFit.eq_self h.1.2, AdcCalibrationSlotFit.eq_self h.2.1,
    AdcCalibrationSlotFit.eq_self h.2.2]

/-- Equal configurations differ from the same configurations in the same domains. -/
theorem persistDomainMaskBetween_congr {x y : MemoryConfig} (h : x.eq y = true)
    (z : MemoryConfig) : persistDomainMaskBetween x z = persistDomainMaskBetween y z := by
  simp only [MemoryConfig.eq, Bool.and_eq_true, decide_eq_true_eq] at h
  obtain ⟨hcalibration, hrest⟩ := h
  have hfit : ∀ fit fit' fit'' : AdcCalibrationSlotFit, fit.eq fit' = true →
      fit.eq fit'' = fit'.eq fit'' := by
    intro fit fit' fit'' hfit
    simp only [AdcCalibrationSlotFit.eq, Bool.and_eq_true] at hfit
    rw [AdcCalibrationSlotFit.eq, AdcCalibrationSlotFit.eq, F32.eq_congr hfit.1,
      F32.eq_congr hfit.2]
  have hchannel : ∀ channel channel' channel'' : AdcCalibrationChannelConfig,
      channel.eq channel' = true → channel.eq channel'' = channel'.eq channel'' := by
    intro channel channel' channel'' hchannel
    simp only [AdcCalibrationChannelConfig.eq, Bool.and_eq_true, decide_eq_true_eq] at hchannel
    obtain ⟨⟨⟨hsamples, hslotA⟩, hslotB⟩, hactive⟩ := hchannel
    rw [AdcCalibrationChannelConfig.eq, AdcCalibrationChannelConfig.eq, hsamples, hactive,
      hfit _ _ _ hslotA, hfit _ _ _ hslotB]
  have hsame : x.adcCalibration.eq z.adcCalibration = y.adcCalibration.eq z.adcCalibration := by
    simp only [AdcCalibrationConfig.eq, Bool.and_eq_true] at hcalibration ⊢
    rw [hchannel _ _ _ hcalibration.1, hchannel _ _ _ hcalibration.2]
  funext domain
  rw [← hrest] at hsame ⊢
  cases domain <;> simp only [persistDomainMaskBetween, hsame]

theorem persistDomainMaskBetween_self (h : config.FitsAreNumbers) (domain : PersistDomain) :
    persistDomainMaskBetween config config domain = false := by
  cases domain <;> simp [persistDomainMaskBetween, AdcCalibrationConfig.eq_self h]

theorem persistDomainMaskBetween_copied_self (h : current.FitsAreNumbers)
    (hstored : domain ≠ .layoutMarker) :
    persistDomainMaskBetween current (domain.copied persisted current) domain = false := by
  cases domain with
  | layoutMarker => exact absurd rfl hstored
  | safetyCalibration | thermalPolicy | userPreferences | networkAndPairing | thermalPlant =>
    simp [persistDomainMaskBetween, PersistDomain.copied, AdcCalibrationConfig.eq_self h]

theorem persistDomainMaskBetween_copied_of_ne (h : other ≠ domain) :
    persistDomainMaskBetween current (domain.copied persisted current) other =
      persistDomainMaskBetween current persisted other := by
  cases domain <;> cases other <;> first | rfl | exact absurd rfl h

theorem persistDomainMaskBetween_copyPersistedDomains (h : current.FitsAreNumbers) :
    persistDomainMaskBetween current (copyPersistedDomains persisted current domains) other =
      (persistDomainMaskBetween current persisted other && !domains.includes other) := by
  have hfold : ∀ (order : List PersistDomain) (persisted : MemoryConfig),
      .layoutMarker ∉ order →
        persistDomainMaskBetween current
            (order.foldl (fun persisted domain =>
              if domains.includes domain then domain.copied persisted current else persisted)
              persisted) other =
          (persistDomainMaskBetween current persisted other &&
            !(decide (other ∈ order) && domains.includes other)) := by
    intro order
    induction order with
    | nil => simp
    | cons domain order ih =>
      intro persisted hstored
      rw [List.mem_cons, not_or] at hstored
      rw [List.foldl_cons, ih _ hstored.2]
      by_cases hincluded : domains.includes domain
      · rw [if_pos hincluded]
        by_cases hother : other = domain
        · simp [hother, hincluded, persistDomainMaskBetween_copied_self h (Ne.symm hstored.1)]
        · simp [hother, persistDomainMaskBetween_copied_of_ne hother]
      · rw [if_neg hincluded]
        by_cases hother : other = domain
        · simp [hother, hincluded]
        · simp [hother]
  rw [copyPersistedDomains, hfold _ _ (by decide)]
  cases other with
  | layoutMarker => rfl
  | safetyCalibration | thermalPolicy | userPreferences | networkAndPairing | thermalPlant =>
    simp [copiedDomains]

theorem MemoryConfig.FitsAreNumbers.copyPersistedDomains (h : current.FitsAreNumbers)
    (hpersisted : persisted.FitsAreNumbers) :
    (copyPersistedDomains persisted current domains).FitsAreNumbers := by
  have hcopied : ∀ (domain : PersistDomain) (persisted : MemoryConfig),
      persisted.FitsAreNumbers → (domain.copied persisted current).FitsAreNumbers := by
    intro domain persisted hpersisted
    cases domain with
    | safetyCalibration => exact h
    | thermalPolicy | userPreferences | networkAndPairing | thermalPlant | layoutMarker =>
      exact hpersisted
  have hfold : ∀ (order : List PersistDomain) (persisted : MemoryConfig),
      persisted.FitsAreNumbers →
        (order.foldl (fun persisted domain =>
          if domains.includes domain then domain.copied persisted current else persisted)
          persisted).FitsAreNumbers := by
    intro order
    induction order with
    | nil => exact fun _ hpersisted => hpersisted
    | cons domain order ih =>
      intro persisted hpersisted
      rw [List.foldl_cons]
      apply ih
      split_ifs
      · exact hcopied domain persisted hpersisted
      · exact hpersisted
  exact hfold copiedDomains persisted hpersisted

end FluxPurr.Memory
