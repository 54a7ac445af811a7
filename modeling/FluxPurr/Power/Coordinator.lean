import FluxPurr.Power.Commands
import FluxPurr.Runs.Program

/-!
# The power coordinator

The coordinator is one task.  It takes commands from a queue and terminals from the PD
service, keeps its own state, and acts on what it shares with the clients and the service
one atomic operation at a time: those are its effects, and between any two of them the
clients and the service run.

The state is passed along by `StateT`, so a function of the source is a `Coordinator`
action here.  The publication of the power state is left out.
-/

namespace FluxPurr.Power

open FluxPurr.Runs

structure PowerCoordinatorState where
  inflight : Option (PowerIntentOwner × PowerTicket) := none
  inflightRefresh : Bool := false
  inflightIdle : Bool := false
  activeOwner : Option PowerIntentOwner := none
  joinedRefresh : List PowerTicket := []
  deferred : Option PowerCommand := none
deriving DecidableEq

/-- Where the command was that a signal ends; `terminal` is one that the PD service has
ended. -/
inductive SignalPlace where
  | incoming
  | inflight
  | terminal
  | joined
  | deferred
  | queued
deriving DecidableEq, Repr

/-- What a signal is recorded with: the place of the ended command, the command that is
being admitted, the owner whose failure the queue is worked off for, and the state of the
coordinator. -/
structure Moment where
  place : SignalPlace
  admitting : Option PowerCommand
  failedOwner : Option PowerIntentOwner
  coordinator : PowerCoordinatorState

inductive PowerEffect where
  /-- `flash_preparation::is_active()`. -/
  | readPreparation
  /-- `POWER_COMMANDS.try_receive()`. -/
  | receiveCommand
  /-- `try_send_pd_service_command`: `false` when the mailbox is full. -/
  | sendPdCommand (command : PdServiceCommand)
  | cancelPdServiceTicket (ticket : PowerTicket)
  /-- Nothing reads the moment. -/
  | signalTicket (moment : Moment) (ticket : PowerTicket) (outcome : TicketOutcome)

abbrev PowerEffect.Answer : PowerEffect → Type
  | readPreparation => Bool
  | receiveCommand => Option PowerCommand
  | sendPdCommand _ => Bool
  | cancelPdServiceTicket _ => Unit
  | signalTicket _ _ _ => Unit

abbrev Coordinator : Type → Type :=
  StateT PowerCoordinatorState (Program PowerEffect PowerEffect.Answer)

namespace Coordinator

def perform (effect : PowerEffect) : Coordinator effect.Answer := StateT.lift (.perform effect)

def signalTicket (place : SignalPlace) (admitting : Option PowerCommand)
    (failedOwner : Option PowerIntentOwner) (ticket : PowerTicket) (outcome : TicketOutcome) :
    Coordinator Unit := do
  let coordinator ← get
  perform (.signalTicket { place, admitting, failedOwner, coordinator } ticket outcome)

/-! ## Admission -/

/-- The loop over `joined_refresh.pop()`, for the tickets from the last to the first. -/
def signalJoined (admitting : Option PowerCommand) (outcome : TicketOutcome) :
    List PowerTicket → Coordinator Unit
  | [] => pure ()
  | ticket :: rest => do
      modify fun coordinator => { coordinator with joinedRefresh := rest.reverse }
      signalTicket .joined admitting none ticket outcome
      signalJoined admitting outcome rest

def settleInflight (admitting : PowerCommand) (outcome : TicketOutcome) : Coordinator Unit := do
  let coordinator ← get
  match coordinator.inflight with
  | some (_, ticket) => do
      set { coordinator with inflight := none }
      perform (.cancelPdServiceTicket ticket)
      signalTicket .inflight (some admitting) none ticket outcome
  | none => pure ()
  modify fun coordinator => { coordinator with inflightRefresh := false }
  let coordinator ← get
  signalJoined (some admitting) outcome coordinator.joinedRefresh.reverse

variable (command : PowerCommand)

/-- Whether the command has been dealt with. -/
def supersedeOrJoinPowerCommand : Coordinator Bool := do
  let coordinator ← get
  match powerCommandAdmissionDecision command.owner command.isRefresh command.isIdle
      (coordinator.inflight.map Prod.fst) coordinator.inflightRefresh
      coordinator.inflightIdle with
  | .joinRefresh => do
      if coordinator.joinedRefresh.length < powerCommandsCapacity then
        set { coordinator with joinedRefresh := coordinator.joinedRefresh ++ [command.ticket] }
      else
        signalTicket .incoming (some command) none command.ticket .rejected
      pure true
  | .supersedeInflight => do
      settleInflight command .superseded
      pure false
  | .supersedeIncoming => do
      signalTicket .incoming (some command) none command.ticket .superseded
      pure true
  | .dispatch => pure false

/-- A deferred command gives way to the new one, or the new one to it.  The result is
whether the new command goes on. -/
def replaceDeferred : Coordinator Bool := do
  let coordinator ← get
  match coordinator.deferred with
  | none => pure true
  | some deferred =>
      if deferredCommandIsReplaced command.owner command.isRefresh command.isIdle
          deferred.owner then do
        set { coordinator with deferred := none }
        signalTicket .deferred (some command) none deferred.ticket .superseded
        pure true
      else do
        signalTicket .incoming (some command) none command.ticket .superseded
        pure false

/-- The owner of a request that finds the mailbox full. -/
def sendOrDefer : Coordinator (Option PowerIntentOwner) := do
  let sent ← perform (.sendPdCommand command.pdCommand)
  let coordinator ← get
  if sent then
    set { coordinator with
      inflight := some (command.owner.getD .automaticThermal, command.ticket)
      inflightRefresh := command.isRefresh
      inflightIdle := command.isIdle }
    pure none
  else
    if coordinator.deferred.isSome then
      signalTicket .incoming (some command) none command.ticket .transportFault
    else
      set { coordinator with deferred := some command }
    pure command.owner

/-- The part of `dispatch_power_command` behind the deferred command. -/
def admitPowerCommand : Coordinator (Option PowerIntentOwner) := do
  let coordinator ← get
  if ownerIsSuperseded command.owner coordinator.activeOwner then do
    signalTicket .incoming (some command) none command.ticket .superseded
    pure none
  else do
    let settled ← supersedeOrJoinPowerCommand command
    if settled then pure none else sendOrDefer command

def dispatchPowerCommand : Coordinator (Option PowerIntentOwner) := do
  let preparing ← perform .readPreparation
  if powerCommandAllowedDuringPreparation command preparing then do
    let goesOn ← replaceDeferred command
    if goesOn then admitPowerCommand command else pure none
  else do
    signalTicket .incoming (some command) none command.ticket .rejected
    pure none

/-! ## The backlog of a failed owner -/

/-- At most six commands are received, so neither list can overflow. -/
def collectFailedOwnerBacklog (failedOwner : PowerIntentOwner) :
    ℕ → List PowerTicket → List PowerCommand → Coordinator (List PowerTicket × List PowerCommand)
  | 0, superseded, dispatchable => pure (superseded, dispatchable)
  | count + 1, superseded, dispatchable => do
      let received ← perform .receiveCommand
      match received with
      | none => pure (superseded, dispatchable)
      | some command =>
          if queuedCommandIsPreemptedByFailedOwner command failedOwner then
            collectFailedOwnerBacklog failedOwner count (superseded ++ [command.ticket])
              dispatchable
          else
            collectFailedOwnerBacklog failedOwner count superseded (dispatchable ++ [command])

def signalSuperseded (failedOwner : PowerIntentOwner) : List PowerTicket → Coordinator Unit
  | [] => pure ()
  | ticket :: rest => do
      signalTicket .queued none (some failedOwner) ticket .superseded
      signalSuperseded failedOwner rest

/-- The floor is raised by a request of a higher owner that finds the mailbox full. -/
def raisedFloor (priorityFloor : PowerIntentOwner) (nextFloor : Option PowerIntentOwner) :
    PowerIntentOwner :=
  (nextFloor.filter fun next => priorityFloor.priority < next.priority).getD priorityFloor

def dispatchBacklog : PowerIntentOwner → List PowerCommand → Coordinator Unit
  | _, [] => pure ()
  | priorityFloor, command :: rest =>
      if queuedCommandIsPreemptedByFailedOwner command priorityFloor then do
        signalTicket .queued none (some priorityFloor) command.ticket .superseded
        dispatchBacklog priorityFloor rest
      else do
        let nextFloor ← dispatchPowerCommand command
        dispatchBacklog (raisedFloor priorityFloor nextFloor) rest

def settleFailedOwnerBacklog (failedOwner : PowerIntentOwner)
    (backlog : List PowerTicket × List PowerCommand) : Coordinator Unit := do
  signalSuperseded failedOwner backlog.1
  dispatchBacklog failedOwner backlog.2

/-- What follows a dispatch whose request found the mailbox full. -/
def settleAfterDispatch (failedOwner : Option PowerIntentOwner) : Coordinator Unit :=
  match failedOwner with
  | none => pure ()
  | some failedOwner => do
      let backlog ← collectFailedOwnerBacklog failedOwner powerCommandsCapacity [] []
      settleFailedOwnerBacklog failedOwner backlog

def retryDeferredPowerCommand : Coordinator Unit := do
  let coordinator ← get
  match coordinator.deferred with
  | none => pure ()
  | some command => do
      set { coordinator with deferred := none }
      let failedOwner ← dispatchPowerCommand command
      settleAfterDispatch failedOwner

/-! ## Terminals -/

/-- Whether the terminal is accepted. -/
def dispatchPowerTerminal (ticket : PowerTicket) (outcome : TicketOutcome) : Coordinator Bool := do
  let coordinator ← get
  if terminalMatchesInflight coordinator.inflight ticket then do
    set { coordinator with
      activeOwner := activeOwnerAfterTerminal coordinator.activeOwner
        (coordinator.inflight.map Prod.fst) coordinator.inflightRefresh
        coordinator.inflightIdle outcome }
    signalTicket .terminal none none ticket outcome
    modify fun coordinator =>
      { coordinator with inflight := none, inflightRefresh := false, inflightIdle := false }
    let coordinator ← get
    signalJoined none outcome coordinator.joinedRefresh.reverse
    pure true
  else pure false

/-! ## The task -/

/-- The task after `POWER_COMMANDS.receive()`. -/
def handleCommand : Coordinator Unit := do
  let failedOwner ← dispatchPowerCommand command
  settleAfterDispatch failedOwner

/-- The backlog of a failed owner is collected before the terminal is dealt with, and
settled after it. -/
def handleTerminal (ticket : PowerTicket) (outcome : TicketOutcome) : Coordinator Unit := do
  let coordinator ← get
  match failedContractOwnerForTerminal coordinator.inflight ticket coordinator.inflightRefresh
      coordinator.inflightIdle outcome with
  | none => do
      let _ ← dispatchPowerTerminal ticket outcome
      retryDeferredPowerCommand
  | some failedOwner => do
      let backlog ← collectFailedOwnerBacklog failedOwner powerCommandsCapacity [] []
      let _ ← dispatchPowerTerminal ticket outcome
      settleFailedOwnerBacklog failedOwner backlog
      retryDeferredPowerCommand

end Coordinator

end FluxPurr.Power
