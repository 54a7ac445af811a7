import FluxPurr.Pd.StatusObservation
import FluxPurr.Power.Commands

/-!
# The heater permit of the PD service

After each turn the service publishes a snapshot for the rest of the firmware and grants the
heater permit for a short time, or revokes it.  The permit is granted for an observation,
for a PPS transition that keeps its APDO, and for a negotiation that follows a publication
with an active contract (`publishPdSnapshot`).

Every duty that is written to the heater passes the gate (`setDutyCycle`).
-/

namespace FluxPurr.Pd

open FluxPurr.Power
open FluxPurr.Usb (saturatingAddU64)

abbrev pdSnapshotMaxAgeMs : ℕ := 100

/-! ## The gate -/

structure HeaterPwm where
  maxDutyCycle : ℕ
  duty : ℕ
deriving DecidableEq, Repr

structure HeaterPwmGate where
  permit : Bool
  expiresAtMs : UInt32
  /-- The PWM, once it is attached. -/
  pwm : Option HeaterPwm
  appliedDutyPercent : ℕ
deriving DecidableEq, Repr

namespace HeaterPwmGate

variable (gate : HeaterPwmGate)

/-- The wrapping difference is negative as an `i32`. -/
def heaterPermitIsActive (nowMs : ℕ) : Bool :=
  gate.permit ∧ 2 ^ 31 ≤ (UInt32.ofNat nowMs - gate.expiresAtMs).toNat

/-- A duty without a permit is zero.  The write to the PWM may fail. -/
def setDutyCycle (duty nowMs : ℕ) (written : Bool) : HeaterPwmGate :=
  let active := gate.heaterPermitIsActive nowMs
  let effectiveDuty := if active then duty else 0
  let gate := if active then gate else { gate with permit := false }
  match gate.pwm with
  | none => { gate with appliedDutyPercent := 0 }
  | some pwm =>
      if ¬ written then gate
      else
        let maximum := max pwm.maxDutyCycle 1
        { gate with
          pwm := some { pwm with duty := effectiveDuty }
          appliedDutyPercent := min ((effectiveDuty * 100 + maximum / 2) / maximum) 100 }

def forceOff (nowMs : ℕ) (written : Bool) : HeaterPwmGate :=
  setDutyCycle { gate with permit := false, expiresAtMs := 0 } 0 nowMs written

/-- The permit holds until the snapshot is too old. -/
def grant (nowMs : ℕ) : HeaterPwmGate :=
  { gate with
    permit := true
    expiresAtMs := UInt32.ofNat (saturatingAddU64 nowMs pdSnapshotMaxAgeMs) }

theorem expiresAtMs_setDutyCycle (duty nowMs : ℕ) (written : Bool) :
    (gate.setDutyCycle duty nowMs written).expiresAtMs = gate.expiresAtMs := by
  unfold setDutyCycle
  dsimp only
  split
  · split_ifs <;> rfl
  · split_ifs <;> rfl

end HeaterPwmGate

/-! ## The snapshot -/

/-- What the rest of the firmware sees of the contract. -/
structure PdServiceSnapshot where
  observation : Option PdStatusObservation
  active : Option ConfirmedActiveContract
  transitionPending : Bool
  serviceAvailable : Bool
  publishedAtMs : ℕ

def pdSnapshotIsFresh (publishedAtMs nowMs : ℕ) : Bool := nowMs - publishedAtMs ≤ pdSnapshotMaxAgeMs

namespace PdServiceSnapshot

def unavailable : PdServiceSnapshot where
  observation := none
  active := none
  transitionPending := false
  serviceAvailable := false
  publishedAtMs := 0

variable (snapshot : PdServiceSnapshot)

def withFreshObservation (nowMs : ℕ) : PdServiceSnapshot :=
  if snapshot.observation.any fun _ => ¬ pdSnapshotIsFresh snapshot.publishedAtMs nowMs then
    { snapshot with observation := none, active := none }
  else snapshot

def settledObservation : Option PdStatusObservation :=
  if snapshot.transitionPending then none else snapshot.observation

def conductingObservation : Option PdStatusObservation := snapshot.observation

end PdServiceSnapshot

/-! ## Publication -/

inductive PendingPdOperation where
  | contract (request : PdContractRequest)
  | idle
  | refresh
deriving DecidableEq, Repr

structure PdService where
  runtime : Fusb302bRuntime
  snapshot : PdServiceSnapshot
  gate : HeaterPwmGate

def startupPdContractReady (observation : Option PdStatusObservation) : Bool :=
  observation.any fun observation => observation.status.pdActive

def continuousPpsTransitionKeepsHeaterPermit (ownerAllowsContinuity ppsRequest
    sameApdoAndCurrent sourceCapabilitiesStable requestHealthy : Bool) : Bool :=
  ownerAllowsContinuity && ppsRequest && sameApdoAndCurrent && sourceCapabilitiesStable &&
    requestHealthy

def previousPpsTransitionKeepsHeaterPermit (permitActive observationMissing
    previousContractPresent negotiationPhase capabilitiesAvailable capabilitiesStable
    requestHealthy : Bool) : Bool :=
  permitActive && observationMissing && previousContractPresent && negotiationPhase &&
    capabilitiesAvailable && capabilitiesStable && requestHealthy

namespace Fusb302bRuntime

variable (runtime : Fusb302bRuntime)

def requestHealthy : Bool :=
  ¬ runtime.requestRejected ∧ ¬ runtime.requestTimedOut ∧ ¬ runtime.vbusLowInterlocked ∧
    runtime.serviceAvailable

/-- The request stays on the APDO of the confirmed contract. -/
def sameApdoAndSafeCurrent (request : PdContractRequest) : Bool :=
  match runtime.policy.confirmedActiveContract, runtime.policy.receivedCapabilities with
  | some active, some capabilities =>
      if request.calibration then
        active.requestKeepsSamePpsApdoOrReducesCurrent capabilities request
      else active.requestKeepsSamePpsApdo capabilities request
  | _, _ => false

/-- A calibration changes its PPS contract without a break. -/
def continuousPpsTransition (pending : Option (PowerTicket × PendingPdOperation)) : Bool :=
  match pending with
  | some (ticket, .contract request) =>
      continuousPpsTransitionKeepsHeaterPermit
        (ticket.owner = some .calibration ∨ ticket.owner = some .thermalPlantAuto)
        (request.mode = .pps) (runtime.sameApdoAndSafeCurrent request)
        (¬ runtime.sourceCapabilitiesRefreshPending) runtime.requestHealthy
  | _ => false

end Fusb302bRuntime

namespace PdService

variable (service : PdService) (nowMs : ℕ)

def preservePreviousContract (observation : Option PdStatusObservation) : Bool :=
  previousPpsTransitionKeepsHeaterPermit (service.gate.heaterPermitIsActive nowMs)
    observation.isNone service.snapshot.active.isSome service.runtime.policy.phase.negotiates
    service.runtime.policy.receivedCapabilities.isSome
    (¬ service.runtime.sourceCapabilitiesRefreshPending) service.runtime.requestHealthy

/-- The permit is granted or extended. -/
def grants (observation : Option PdStatusObservation)
    (pending : Option (PowerTicket × PendingPdOperation)) : Bool :=
  startupPdContractReady observation || service.runtime.continuousPpsTransition pending ||
    service.preservePreviousContract nowMs observation

/-- The contract that was observed, or the one of the last publication. -/
def publishedContract (observation : Option PdStatusObservation) : Option ConfirmedActiveContract :=
  (observation.bind fun observed =>
      service.runtime.policy.receivedCapabilities.bind fun capabilities =>
        ConfirmedActiveContract.fromPrivateContract observed.contract capabilities).or
    (if service.preservePreviousContract nowMs observation then service.snapshot.active else none)

def publishPdSnapshot (observation : Option PdStatusObservation)
    (pending : Option (PowerTicket × PendingPdOperation)) (written : Bool) : PdService :=
  { service with
    snapshot :=
      { observation := observation
        active := service.publishedContract nowMs observation
        transitionPending := service.runtime.sourceCapabilitiesRefreshPending ||
          service.runtime.policy.phase.negotiates
        serviceAvailable := service.runtime.serviceAvailable
        publishedAtMs := nowMs }
    gate :=
      if service.grants nowMs observation pending then service.gate.grant nowMs
      else service.gate.forceOff nowMs written }

/-- What a consumer reads. -/
def clientSnapshot : PdServiceSnapshot := service.snapshot.withFreshObservation nowMs

/-- The service before its first turn, with the PWM that may be attached already. -/
def starting (pwm : Option HeaterPwm) : PdService where
  runtime := .new
  snapshot := { PdServiceSnapshot.unavailable with serviceAvailable := true }
  gate := { permit := false, expiresAtMs := 0, pwm := pwm, appliedDutyPercent := 0 }

end PdService

/-! ## Turns -/

/-- What the service does to its runtime in a turn with the bus. -/
def Fusb302bRuntime.performAll (runtime : Fusb302bRuntime)
    (operations : List (ℕ × RuntimeOperation)) : Fusb302bRuntime :=
  operations.foldl (fun runtime timed => runtime.perform timed.1 timed.2) runtime

/-- A turn, or a write to the heater.  Which operations of the service come before the poll
and which one is pending after it is given. -/
inductive ServiceAction where
  | turn (work : List (ℕ × RuntimeOperation)) (polledAtMs : ℕ) (transfers : PollTransfers)
      (publishedAtMs : ℕ) (pending : Option (PowerTicket × PendingPdOperation)) (written : Bool)
  /-- The bus is not free. -/
  | busyTurn (publishedAtMs : ℕ) (pending : Option (PowerTicket × PendingPdOperation))
      (written : Bool)
  | dutyWrite (nowMs duty : ℕ) (written : Bool)

namespace ServiceAction

/-- When the action is over. -/
def atMs : ServiceAction → ℕ
  | turn _ _ _ publishedAtMs _ _ => publishedAtMs
  | busyTurn publishedAtMs _ _ => publishedAtMs
  | dutyWrite nowMs _ _ => nowMs

end ServiceAction

namespace PdService

variable (service : PdService)

/-- The runtime once the poll of a turn is over. -/
def polled (work : List (ℕ × RuntimeOperation)) (polledAtMs : ℕ)
    (transfers : PollTransfers) : PdService :=
  { service with runtime := ((service.runtime.performAll work).poll polledAtMs transfers).1 }

def runPdServiceTurn (work : List (ℕ × RuntimeOperation))
    (polledAtMs : ℕ) (transfers : PollTransfers) (publishedAtMs : ℕ)
    (pending : Option (PowerTicket × PendingPdOperation)) (written : Bool) : PdService :=
  let service := service.polled work polledAtMs transfers
  service.publishPdSnapshot publishedAtMs service.runtime.pdStatusObservation pending written

def publishBusyPdServiceTurn (publishedAtMs : ℕ)
    (pending : Option (PowerTicket × PendingPdOperation)) (written : Bool) : PdService :=
  service.publishPdSnapshot publishedAtMs none pending written

def step : ServiceAction → PdService
  | .turn work polledAtMs transfers publishedAtMs pending written =>
      service.runPdServiceTurn work polledAtMs transfers publishedAtMs pending written
  | .busyTurn publishedAtMs pending written =>
      service.publishBusyPdServiceTurn publishedAtMs pending written
  | .dutyWrite nowMs duty written =>
      { service with gate := service.gate.setDutyCycle duty nowMs written }

/-- One action of the service or of the heater. -/
def Step (before : PdService) (action : ServiceAction) (after : PdService) : Prop :=
  after = before.step action

end PdService

/-! ## A first contract -/

/-- 5 V and 9 V, with 3 A each. -/
def PdPacket.fixedOffer : PdPacket := ⟨0x2001, [0x2c, 0x91, 0x01, 0x00, 0x2c, 0xd1, 0x02, 0x00]⟩

/-- A turn in which the source offers two contracts and confirms 5 V. -/
def ServiceAction.confirm : ServiceAction :=
  .turn [] 7 (.receiving [.fixedOffer, .accepted, .psReady]) 8 none true

end FluxPurr.Pd
