import FluxPurr.Memory.Profile

/-!
# The evidence for an extended deadline

A trial has to settle within a limit from the end of its warm-up.  The limit is extended once, to
three times its length, if the trial approaches its target at the lowest power and has done so
before the original deadline.  The runtime decides that with `tryExtend` and records what it has
seen.  `validExtension` checks a record afterwards, from its fields alone.
-/

namespace FluxPurr.Thermal.Tuning

open FluxPurr.Memory

inductive ThermalTuningPhase where
  | idle
  | warmup
  | approach
  | hold
  | cooldown
  | sealed
  | completed
  | failed
  | canceled
deriving DecidableEq, Repr

abbrev timingPolicyVersion : UInt8 := 2
abbrev modelApproachTimingPolicyVersion : UInt8 := 3
abbrev brakingApproachTimingPolicyVersion : UInt8 := 4
abbrev ppsContinuityTimingPolicyVersion : UInt8 := 5
abbrev extensionFloorPermille : UInt16 := 100
abbrev approachMinPermille : UInt16 := 50

def originalSettleLimitMs (targetC : Int16) : ℕ := if targetC > 150 then 5000 else 10000

structure ThermalTuningTimingEvidence where
  policyVersion : UInt8
  originalLimitMs : ℕ
  extensionLimitMs : ℕ
  allowedApproachFloorPermille : UInt16
  effectiveApproachFloorPermille : UInt16
  configuredApproachFloorPermille : UInt16
  modelApproachFloorPermille : Option UInt16
  originalDeadlineObservedAtMs : Option ℕ
  originalDeadlinePhase : Option ThermalTuningPhase
  floorObservedAtMs : Option ℕ
  extendedAtMs : Option ℕ
  warmupExitedAtMs : Option ℕ
  stableWindowStartedAtMs : Option ℕ
  stableWindowVerifiedAtMs : Option ℕ
deriving DecidableEq

namespace ThermalTuningTimingEvidence

def forPoint (point : ThermalControlProfilePointConfig) : ThermalTuningTimingEvidence where
  policyVersion := timingPolicyVersion
  originalLimitMs := originalSettleLimitMs point.targetTempC
  extensionLimitMs := originalSettleLimitMs point.targetTempC * 3
  allowedApproachFloorPermille := extensionFloorPermille
  effectiveApproachFloorPermille := max point.approachFloorPowerPermille point.holdPowerPermille
  configuredApproachFloorPermille := point.approachFloorPowerPermille
  modelApproachFloorPermille := none
  originalDeadlineObservedAtMs := none
  originalDeadlinePhase := none
  floorObservedAtMs := none
  extendedAtMs := none
  warmupExitedAtMs := none
  stableWindowStartedAtMs := none
  stableWindowVerifiedAtMs := none

def forModelPoint (point : ThermalControlProfilePointConfig) : ThermalTuningTimingEvidence :=
  { forPoint point with
    policyVersion := ppsContinuityTimingPolicyVersion
    allowedApproachFloorPermille := approachMinPermille
    effectiveApproachFloorPermille := approachMinPermille
    modelApproachFloorPermille := some approachMinPermille }

variable (timing : ThermalTuningTimingEvidence)

def requiredFloorPermille : Option UInt16 :=
  if timing.policyVersion = timingPolicyVersion ∨
      timing.policyVersion = modelApproachTimingPolicyVersion then
    some extensionFloorPermille
  else if timing.policyVersion = brakingApproachTimingPolicyVersion ∨
      timing.policyVersion = ppsContinuityTimingPolicyVersion then
    some approachMinPermille
  else none

def supportedPolicy : Bool :=
  if timing.requiredFloorPermille ≠ some timing.allowedApproachFloorPermille then false
  else if timing.policyVersion = timingPolicyVersion then
    timing.modelApproachFloorPermille.isNone
  else if timing.policyVersion = modelApproachTimingPolicyVersion ∨
      timing.policyVersion = brakingApproachTimingPolicyVersion ∨
      timing.policyVersion = ppsContinuityTimingPolicyVersion then
    timing.modelApproachFloorPermille = some timing.allowedApproachFloorPermille &&
      timing.effectiveApproachFloorPermille = timing.allowedApproachFloorPermille
  else false

def floorEligible : Bool :=
  timing.supportedPolicy &&
    timing.effectiveApproachFloorPermille = timing.allowedApproachFloorPermille &&
    (timing.modelApproachFloorPermille.isSome ||
      timing.configuredApproachFloorPermille = timing.allowedApproachFloorPermille)

/-- A request for no power at all is a protection.  It neither shows the floor nor leaves it. -/
def observeApproachRequest (elapsedMs : ℕ) (requestedPermille : UInt16) :
    ThermalTuningTimingEvidence :=
  if timing.extendedAtMs.isSome = true then timing
  else if timing.floorEligible ∧ requestedPermille = timing.allowedApproachFloorPermille then
    { timing with floorObservedAtMs := timing.floorObservedAtMs.or (some elapsedMs) }
  else if requestedPermille ≠ 0 then { timing with floorObservedAtMs := none }
  else timing

/-- The end of the original limit, once the warm-up has ended. -/
def deadlineMs : Option ℕ := timing.warmupExitedAtMs.map (· + timing.originalLimitMs)

/-- What an extension needs at the original deadline. -/
def extends? (deadlineMs : ℕ) (originalTimedOut : Bool) (phase : ThermalTuningPhase) : Bool :=
  originalTimedOut && phase = .approach && timing.floorEligible &&
    timing.floorObservedAtMs.any (· < deadlineMs)

/-- The original deadline is looked at once, whatever comes of it. -/
def tryExtend (elapsedMs : ℕ) (originalTimedOut : Bool) (phase : ThermalTuningPhase) :
    ThermalTuningTimingEvidence × Bool :=
  if timing.extendedAtMs.isSome = true then (timing, true)
  else
    match timing.deadlineMs with
    | none => (timing, false)
    | some deadlineMs =>
        if elapsedMs < deadlineMs ∨ timing.originalDeadlineObservedAtMs.isSome = true then
          (timing, false)
        else
          let timing :=
            { timing with
              originalDeadlineObservedAtMs := some elapsedMs
              originalDeadlinePhase := some phase }
          if timing.extends? deadlineMs originalTimedOut phase then
            ({ timing with extendedAtMs := some elapsedMs }, true)
          else (timing, false)

def activeLimitMs : ℕ :=
  if timing.extendedAtMs.isSome = true then timing.extensionLimitMs else timing.originalLimitMs

def validExtension : Bool :=
  timing.floorEligible &&
    (timing.originalLimitMs = 5000 || timing.originalLimitMs = 10000) &&
    timing.extensionLimitMs = timing.originalLimitMs * 3 &&
    timing.originalDeadlinePhase = some .approach &&
    timing.originalDeadlineObservedAtMs = timing.extendedAtMs &&
    match timing.floorObservedAtMs, timing.extendedAtMs, timing.warmupExitedAtMs with
    | some floor, some extended, some exit =>
        exit ≤ floor && floor < exit + timing.originalLimitMs &&
          exit ≤ extended && timing.originalLimitMs ≤ extended - exit
    | _, _, _ => false

end ThermalTuningTimingEvidence

end FluxPurr.Thermal.Tuning
