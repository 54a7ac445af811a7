import FluxPurr.Pd.Contract

/-!
# Power commands

The owners of a power intent, their commands, and the predicates by which the coordinator
decides between two of them.
-/

namespace FluxPurr.Power

open FluxPurr.Pd

inductive PowerIntentOwner where
  | thermalPlantAuto
  | calibration
  | manualOperator
  | automaticThermal
deriving DecidableEq, Repr

def PowerIntentOwner.priority : PowerIntentOwner → ℕ
  | thermalPlantAuto => 4
  | calibration => 3
  | manualOperator => 2
  | automaticThermal => 1

theorem PowerIntentOwner.priority_pos (owner : PowerIntentOwner) : 0 < owner.priority := by
  cases owner <;> decide

structure PowerTicket where
  owner : Option PowerIntentOwner
  sequence : UInt32
  resultSlot : ℕ
deriving DecidableEq, Repr

structure ConfirmedActiveContract where
  mode : PdContractRequestMode
  voltageMv : ℕ
  operatingCurrentMa : ℕ
  ppsRange : Option PpsAdjustmentRange
deriving DecidableEq, Repr

inductive TicketOutcome where
  | confirmed (contract : ConfirmedActiveContract)
  | capabilitiesRefreshed
  | rejected
  | timedOut
  | transportFault
  | detached
  | superseded
deriving DecidableEq, Repr

inductive PowerCommand where
  | request (owner : PowerIntentOwner) (request : PdContractRequest) (ticket : PowerTicket)
  | refreshCapabilities (ticket : PowerTicket)
  | idle (ticket : PowerTicket) (minimumMv : ℕ)
deriving DecidableEq, Repr

inductive PdServiceCommand where
  | automaticIdle (ticket : PowerTicket) (minimumMv : ℕ)
  | contract (request : PdContractRequest) (ticket : PowerTicket)
  | refreshCapabilities (ticket : PowerTicket)
deriving DecidableEq, Repr

/-- `pd_service_command_ticket`. -/
def PdServiceCommand.ticket : PdServiceCommand → PowerTicket
  | automaticIdle ticket _ => ticket
  | contract _ ticket => ticket
  | refreshCapabilities ticket => ticket

abbrev powerCommandsCapacity : ℕ := 6

/-! ## Commands -/

namespace PowerCommand

/-! The components of `power_command_details`. -/

def ticket : PowerCommand → PowerTicket
  | request _ _ ticket => ticket
  | refreshCapabilities ticket => ticket
  | idle ticket _ => ticket

def owner : PowerCommand → Option PowerIntentOwner
  | request owner _ _ => some owner
  | refreshCapabilities _ => none
  | idle _ _ => none

def isRefresh : PowerCommand → Bool
  | refreshCapabilities _ => true
  | request _ _ _ | idle _ _ => false

def isIdle : PowerCommand → Bool
  | idle _ _ => true
  | request _ _ _ | refreshCapabilities _ => false

/-- `power_pd_command`; the command and its details always fit together. -/
def pdCommand : PowerCommand → PdServiceCommand
  | request _ contract ticket => .contract contract ticket
  | refreshCapabilities ticket => .refreshCapabilities ticket
  | idle ticket minimumMv => .automaticIdle ticket minimumMv

/-- The facade gives a request a ticket of its owner, and other commands one of nobody. -/
def IsAdmitted (command : PowerCommand) : Prop := command.ticket.owner = command.owner

@[simp] theorem ticket_pdCommand (command : PowerCommand) :
    command.pdCommand.ticket = command.ticket := by
  cases command <;> rfl

end PowerCommand

/-! ## Decisions -/

def shouldJoinRefresh (refresh inflightRefresh : Bool) : Bool := refresh && inflightRefresh

inductive PowerCommandAdmissionDecision where
  | dispatch
  | joinRefresh
  | supersedeInflight
  | supersedeIncoming
deriving DecidableEq, Repr

variable (owner : Option PowerIntentOwner)

def powerCommandAdmissionDecision (refresh idle : Bool)
    (activeOwner : Option PowerIntentOwner) (inflightRefresh inflightIdle : Bool) :
    PowerCommandAdmissionDecision :=
  if shouldJoinRefresh refresh inflightRefresh then .joinRefresh
  else
    match activeOwner with
    | none => .dispatch
    | some activeOwner =>
        if idle ∨ (inflightIdle ∧ owner.isSome ∧ ¬ refresh) ∨
            owner.any (fun owner => activeOwner.priority < owner.priority) then
          .supersedeInflight
        else .supersedeIncoming

/-- `owner.map_or(0, PowerIntentOwner::priority)`. -/
def priorityOf : ℕ := (owner.map PowerIntentOwner.priority).getD 0

def deferredCommandIsReplaced (refresh idle : Bool)
    (deferredOwner : Option PowerIntentOwner) : Bool :=
  idle || refresh || decide (priorityOf deferredOwner ≤ priorityOf owner)

variable (inflight : Option (PowerIntentOwner × PowerTicket))

def terminalMatchesInflight (ticket : PowerTicket) : Bool :=
  inflight.any fun current => current.2 = ticket

def TicketOutcome.isConfirmed : TicketOutcome → Bool
  | confirmed _ => true
  | _ => false

def activeOwnerAfterTerminal (current completed : Option PowerIntentOwner)
    (wasRefresh wasIdle : Bool) (outcome : TicketOutcome) : Option PowerIntentOwner :=
  if wasRefresh ∧ outcome ≠ .timedOut ∧ outcome ≠ .transportFault ∧ outcome ≠ .detached then current
  else if outcome.isConfirmed ∧ ¬ wasIdle then completed
  else none

def failedContractOwnerForTerminal
    (ticket : PowerTicket) (wasRefresh wasIdle : Bool) (outcome : TicketOutcome) :
    Option PowerIntentOwner :=
  if wasRefresh ∨ wasIdle ∨ outcome.isConfirmed ∨ outcome = .capabilitiesRefreshed ∨
      ¬ terminalMatchesInflight inflight ticket then none
  else inflight.map Prod.fst

def ownerIsSuperseded (owner activeOwner : Option PowerIntentOwner) : Bool :=
  owner.any fun owner => activeOwner.any fun active => owner.priority < active.priority

def queuedCommandIsPreemptedByFailedOwner (command : PowerCommand)
    (failedOwner : PowerIntentOwner) : Bool :=
  if command.isIdle then false
  else if command.isRefresh then true
  else command.owner.any fun owner => owner.priority ≤ failedOwner.priority

/-- During the preparation of a flash only Idle goes through. -/
def powerCommandAllowedDuringPreparation (command : PowerCommand) (preparing : Bool) : Bool :=
  !preparing || command.isIdle

end FluxPurr.Power
