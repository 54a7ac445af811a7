import FluxPurr.Calibration.RuntimeState
import FluxPurr.Heater.AutomaticCandidate
import FluxPurr.Runs.Program

/-!
# The terminal disarm

When a calibration ends, its heater is disarmed until the source is back on an idle contract.
`reconcileTerminalDisarmPower` runs once a turn: it asks the port for the idle contract, polls
the ticket of the request, and releases the disarm once the request is confirmed and the
snapshot shows a settled fixed contract.  Between two turns other code may set the disarm
again, or withdraw it; a ticket that is still held is then discarded at the next turn.

The port gives any answers.  `Reconciles` lists what one turn can do.  A disarm is released
only on a confirmed request of its own (`terminalDisarm_released_on_proof`).
-/

namespace FluxPurr.Heater

open FluxPurr.Runs
open FluxPurr.Calibration (CalibrationRuntimeState ManualPpsState)
open FluxPurr.Pd (PdServiceSnapshot PdStatusObservation standbyCurrentForVoltage
  fusb302bPdAbsoluteMinMv fusb302bFixedMaxMv)
open FluxPurr.Power (PowerTicket TicketOutcome ConfirmedActiveContract)

/-! ## One turn -/

inductive PdRequestState where
  | confirmed
  | pending (ticket : PowerTicket)
  | failed
deriving DecidableEq, Repr

/-- `TerminalDisarmPowerPort` -/
inductive TerminalDisarmEffect where
  | snapshot
  | restoreIdleContract (coolingRequired : Bool)
  | tryTakeTicket (ticket : PowerTicket)
  | discardTicket (ticket : PowerTicket)

abbrev TerminalDisarmEffect.Answer : TerminalDisarmEffect → Type
  | snapshot => PdServiceSnapshot
  | restoreIdleContract _ => PdRequestState
  | tryTakeTicket _ => Option TicketOutcome
  | discardTicket _ => Unit

structure TerminalDisarm where
  calibration : CalibrationRuntimeState
  manualPps : ManualPpsState
  pendingTicket : Option PowerTicket

abbrev DisarmProgram : Type → Type :=
  StateT TerminalDisarm (Program TerminalDisarmEffect TerminalDisarmEffect.Answer)

/-- The contract is good for the board without its heater. -/
def automaticIdleContractIsConfirmed (observation : PdStatusObservation) : Bool :=
  observation.contract.kind = .fixed ∧
    fusb302bPdAbsoluteMinMv ≤ observation.contract.voltageMv ∧
    observation.contract.voltageMv ≤ fusb302bFixedMaxMv ∧
    standbyCurrentForVoltage observation.contract.voltageMv ≤ observation.contract.currentMa

def terminalIdleContractConfirmed (observation : Option PdStatusObservation) : Bool :=
  observation.any automaticIdleContractIsConfirmed

namespace TerminalDisarm

def perform (effect : TerminalDisarmEffect) : DisarmProgram effect.Answer :=
  StateT.lift (.perform effect)

def discardPendingTicket : DisarmProgram Unit := do
  match (← get).pendingTicket with
  | none => pure ()
  | some ticket =>
      modify fun disarm => { disarm with pendingTicket := none }
      perform (.discardTicket ticket)

/-- The held ticket is polled; without one the idle contract is asked for. -/
def idleConfirmed (coolingRequired : Bool) : DisarmProgram Bool := do
  match (← get).pendingTicket with
  | some ticket =>
      match ← perform (.tryTakeTicket ticket) with
      | none => pure false
      | some outcome =>
          modify fun disarm => { disarm with pendingTicket := none }
          pure outcome.isConfirmed
  | none =>
      match ← perform (.restoreIdleContract coolingRequired) with
      | .confirmed => pure true
      | .pending ticket =>
          modify fun disarm => { disarm with pendingTicket := some ticket }
          pure false
      | .failed => pure false

/-- The end of the disarm. -/
def release (disarm : TerminalDisarm) (preparationActive : Bool) : TerminalDisarm :=
  { disarm with
    calibration :=
      { disarm.calibration with
        immediateHeaterDisarmPending := false
        thermalPlantCompletionDisarmPending :=
          if preparationActive then false
          else disarm.calibration.thermalPlantCompletionDisarmPending }
    manualPps := disarm.manualPps.consumeAutomaticRestorePending }

/-- The request is confirmed, and the snapshot decides. -/
def releaseWhenSettled (preparationActive : Bool) : DisarmProgram Bool := do
  match terminalIdleContractConfirmed (← perform .snapshot).settledObservation with
  | false => pure false
  | true =>
      modify fun disarm => disarm.release preparationActive
      pure true

def reconcileTerminalDisarmPower (preparationActive coolingRequired : Bool) :
    DisarmProgram Bool := do
  match (← get).calibration.immediateHeaterDisarmPending with
  | false =>
      discardPendingTicket
      pure false
  | true =>
      match ← idleConfirmed coolingRequired with
      | false => pure false
      | true => releaseWhenSettled preparationActive

/-! ## What a turn can do -/

/-- A call of the port, with its answer. -/
abbrev PortCall := Σ effect : TerminalDisarmEffect, effect.Answer

def isPending (disarm : TerminalDisarm) : Bool := disarm.calibration.immediateHeaterDisarmPending

/-- The request for the idle contract is confirmed, now or by its ticket. -/
inductive Proves (coolingRequired : Bool) : Option PowerTicket → PortCall → Prop
  | now : Proves coolingRequired none ⟨.restoreIdleContract coolingRequired, .confirmed⟩
  | ticket (ticket : PowerTicket) (contract : ConfirmedActiveContract) :
      Proves coolingRequired (some ticket) ⟨.tryTakeTicket ticket, some (.confirmed contract)⟩

/-- The calls of one turn, whether it has released the disarm, and what is left. -/
inductive Reconciles (preparationActive coolingRequired : Bool) (disarm : TerminalDisarm) :
    List PortCall → Bool → TerminalDisarm → Prop
  | nothingPending (hpending : disarm.isPending = false) (hticket : disarm.pendingTicket = none) :
      Reconciles preparationActive coolingRequired disarm [] false disarm
  | discarded (hpending : disarm.isPending = false) (ticket : PowerTicket)
      (hticket : disarm.pendingTicket = some ticket) :
      Reconciles preparationActive coolingRequired disarm [⟨.discardTicket ticket, ()⟩] false
        { disarm with pendingTicket := none }
  | unanswered (hpending : disarm.isPending = true) (ticket : PowerTicket)
      (hticket : disarm.pendingTicket = some ticket) :
      Reconciles preparationActive coolingRequired disarm [⟨.tryTakeTicket ticket, none⟩] false
        disarm
  | refused (hpending : disarm.isPending = true) (ticket : PowerTicket)
      (hticket : disarm.pendingTicket = some ticket) (outcome : TicketOutcome)
      (hrefused : outcome.isConfirmed = false) :
      Reconciles preparationActive coolingRequired disarm
        [⟨.tryTakeTicket ticket, some outcome⟩] false { disarm with pendingTicket := none }
  | asked (hpending : disarm.isPending = true) (hticket : disarm.pendingTicket = none)
      (ticket : PowerTicket) :
      Reconciles preparationActive coolingRequired disarm
        [⟨.restoreIdleContract coolingRequired, .pending ticket⟩] false
        { disarm with pendingTicket := some ticket }
  | failed (hpending : disarm.isPending = true) (hticket : disarm.pendingTicket = none) :
      Reconciles preparationActive coolingRequired disarm
        [⟨.restoreIdleContract coolingRequired, .failed⟩] false disarm
  | unsettled (hpending : disarm.isPending = true) (confirmation : PortCall)
      (hproves : Proves coolingRequired disarm.pendingTicket confirmation)
      (snapshot : PdServiceSnapshot) :
      Reconciles preparationActive coolingRequired disarm
        [confirmation, ⟨.snapshot, snapshot⟩] false { disarm with pendingTicket := none }
  | released (hpending : disarm.isPending = true) (confirmation : PortCall)
      (hproves : Proves coolingRequired disarm.pendingTicket confirmation)
      (snapshot : PdServiceSnapshot)
      (hsettled : terminalIdleContractConfirmed snapshot.settledObservation = true) :
      Reconciles preparationActive coolingRequired disarm
        [confirmation, ⟨.snapshot, snapshot⟩] true
        (TerminalDisarm.release { disarm with pendingTicket := none } preparationActive)

variable {disarm : TerminalDisarm} {preparationActive coolingRequired : Bool}

theorem run_of_not_pending (hpending : disarm.isPending = false) :
    (reconcileTerminalDisarmPower preparationActive coolingRequired).run disarm =
      match disarm.pendingTicket with
      | none => .done (false, disarm)
      | some ticket =>
        .step (.discardTicket ticket) fun _ =>
          .done (false, { disarm with pendingTicket := none }) := by
  obtain ⟨calibration, manualPps, ticket⟩ := disarm
  change calibration.immediateHeaterDisarmPending = false at hpending
  unfold reconcileTerminalDisarmPower discardPendingTicket
  simp only [StateT.run_bind, StateT.run_get, pure_bind, hpending]
  cases ticket <;> rfl

theorem run_releaseWhenSettled :
    (releaseWhenSettled preparationActive).run disarm =
      .step .snapshot fun snapshot =>
        match terminalIdleContractConfirmed snapshot.settledObservation with
        | false => .done (false, disarm)
        | true => .done (true, disarm.release preparationActive) := by
  refine congrArg (Program.step _) (funext fun snapshot => ?_)
  change StateT.run (match terminalIdleContractConfirmed snapshot.settledObservation with
    | false => pure false
    | true => do
        modify fun disarm => disarm.release preparationActive
        pure true : DisarmProgram Bool) disarm = _
  cases terminalIdleContractConfirmed snapshot.settledObservation <;> rfl

theorem run_of_pending (hpending : disarm.isPending = true) :
    (reconcileTerminalDisarmPower preparationActive coolingRequired).run disarm =
      match disarm.pendingTicket with
      | some ticket =>
        .step (.tryTakeTicket ticket) fun answer =>
          match answer with
          | none => .done (false, disarm)
          | some outcome =>
            match outcome.isConfirmed with
            | false => .done (false, { disarm with pendingTicket := none })
            | true => (releaseWhenSettled preparationActive).run
                { disarm with pendingTicket := none }
      | none =>
        .step (.restoreIdleContract coolingRequired) fun answer =>
          match answer with
          | .confirmed => (releaseWhenSettled preparationActive).run disarm
          | .pending ticket => .done (false, { disarm with pendingTicket := some ticket })
          | .failed => .done (false, disarm) := by
  obtain ⟨calibration, manualPps, ticket⟩ := disarm
  change calibration.immediateHeaterDisarmPending = true at hpending
  unfold reconcileTerminalDisarmPower idleConfirmed
  simp only [StateT.run_bind, StateT.run_get, pure_bind, hpending]
  cases ticket with
  | none =>
    refine congrArg (Program.step _) (funext fun answer => ?_)
    cases answer <;> rfl
  | some ticket =>
    refine congrArg (Program.step _) (funext fun answer => ?_)
    cases answer with
    | none => rfl
    | some outcome => cases outcome <;> rfl

theorem reconciles_of_confirmed {calls : List PortCall} {released : Bool}
    {after : TerminalDisarm} {confirmation : PortCall} (hpending : disarm.isPending = true)
    (hproves : Proves coolingRequired disarm.pendingTicket confirmation)
    (h : ((releaseWhenSettled preparationActive).run
      { disarm with pendingTicket := none }).Performs calls (released, after)) :
    Reconciles preparationActive coolingRequired disarm (confirmation :: calls) released
      after := by
  rw [run_releaseWhenSettled] at h
  obtain _ | @⟨_, _, snapshot, _, _, h⟩ := h
  dsimp only at h
  cases hsettled : terminalIdleContractConfirmed snapshot.settledObservation with
  | false =>
    rw [hsettled] at h
    cases h
    exact .unsettled hpending confirmation hproves snapshot
  | true =>
    rw [hsettled] at h
    cases h
    exact .released hpending confirmation hproves snapshot hsettled

theorem reconciles_of_performs {calls : List PortCall} {released : Bool} {after : TerminalDisarm}
    (h : ((reconcileTerminalDisarmPower preparationActive coolingRequired).run disarm).Performs
      calls (released, after)) :
    Reconciles preparationActive coolingRequired disarm calls released after := by
  cases hpending : disarm.isPending with
  | false =>
    rw [run_of_not_pending hpending] at h
    cases hticket : disarm.pendingTicket with
    | none =>
      rw [hticket] at h
      cases h
      exact .nothingPending hpending hticket
    | some ticket =>
      rw [hticket] at h
      obtain _ | @⟨_, _, _, _, _, h⟩ := h
      cases h
      exact .discarded hpending ticket hticket
  | true =>
    rw [run_of_pending hpending] at h
    cases hticket : disarm.pendingTicket with
    | none =>
      rw [hticket] at h
      obtain _ | @⟨_, _, answer, _, _, h⟩ := h
      cases answer with
      | confirmed =>
        have hproves : Proves coolingRequired disarm.pendingTicket
            ⟨.restoreIdleContract coolingRequired, .confirmed⟩ := hticket ▸ .now
        have hsame : disarm = { disarm with pendingTicket := none } := by
          rw [← hticket]
        rw [hsame] at h
        exact reconciles_of_confirmed hpending hproves h
      | pending ticket =>
        cases h
        exact .asked hpending hticket ticket
      | failed =>
        cases h
        exact .failed hpending hticket
    | some ticket =>
      rw [hticket] at h
      obtain _ | @⟨_, _, answer, _, _, h⟩ := h
      cases answer with
      | none =>
        cases h
        exact .unanswered hpending ticket hticket
      | some outcome =>
        by_cases hconfirmed : outcome.isConfirmed = true
        · cases outcome with
          | confirmed contract =>
            have hproves : Proves coolingRequired disarm.pendingTicket
                ⟨.tryTakeTicket ticket, some (.confirmed contract)⟩ :=
              hticket ▸ .ticket ticket contract
            exact reconciles_of_confirmed hpending hproves h
          | _ => cases hconfirmed
        · have hrefused := eq_false_of_ne_true hconfirmed
          dsimp only at h
          rw [hrefused] at h
          cases h
          exact .refused hpending ticket hticket outcome hrefused

end TerminalDisarm

end FluxPurr.Heater
