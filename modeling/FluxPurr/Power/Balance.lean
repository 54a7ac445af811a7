import FluxPurr.Power.Cancellation
import FluxPurr.Power.Priority

/-!
# No ticket is lost

The coordinator gets a ticket with a command, from a call or from the queue, and parts with it
by a signal.  At any time the tickets it got are those it has signalled and those in its state,
each as often as it was got (`tickets_balance`): none is lost, and none is signalled twice.

In the PD service at most one ticket is not cancelled, the one that the coordinator waits for
(`one_live_ticket`).
-/

namespace FluxPurr.Power

open FluxPurr.Runs

namespace CoordinatorTrace

def receivedTicket : (Σ effect, PowerEffect.Answer effect) → Option PowerTicket
  | ⟨.receiveCommand, answer⟩ => Option.map PowerCommand.ticket answer
  | _ => none

def signalledTicket : (Σ effect, PowerEffect.Answer effect) → Option PowerTicket
  | ⟨.signalTicket _ ticket _, _⟩ => some ticket
  | _ => none

/-- The tickets of the commands that were taken from the queue. -/
def received (effects : CoordinatorTrace) : Multiset PowerTicket :=
  effects.filterMap receivedTicket

def signalled (effects : CoordinatorTrace) : Multiset PowerTicket :=
  effects.filterMap signalledTicket

/-- Under the discipline a signal takes one ticket from those that are held. -/
theorem held_afterAll {effects : CoordinatorTrace} {custody : Custody}
    (h : coordinatorDiscipline.AllowsAll custody effects) :
    effects.signalled + (coordinatorDiscipline.afterAll custody effects).held =
      effects.received + custody.held := by
  induction effects generalizing custody with
  | nil => rfl
  | cons answered effects ih =>
    obtain ⟨effect, answer⟩ := answered
    have hrest := ih h.2
    cases effect with
    | signalTicket moment ticket outcome =>
      have hheld : ticket ∈ custody.held := h.1.1
      change ticket ::ₘ signalled effects + _ = received effects + custody.held
      rw [Multiset.cons_add]
      refine (congrArg (ticket ::ₘ ·) hrest).trans ?_
      rw [← Multiset.add_cons]
      exact congrArg _ (Multiset.cons_erase hheld)
    | receiveCommand =>
      cases answer with
      | none => exact hrest
      | some command =>
        refine hrest.trans ?_
        change received effects + command.ticket ::ₘ custody.held =
          command.ticket ::ₘ received effects + custody.held
        rw [Multiset.add_cons, Multiset.cons_add]
    | sendPdCommand command => cases answer <;> exact hrest
    | readPreparation | cancelPdServiceTicket => exact hrest

end CoordinatorTrace

/-- A call of the coordinator, and the effects that it had. -/
structure CoordinatorTurn where
  call : CoordinatorCall
  effects : CoordinatorTrace

namespace CoordinatorTurn

def got (turn : CoordinatorTurn) : Multiset PowerTicket :=
  (turn.call.command.toList.map PowerCommand.ticket : List PowerTicket) + turn.effects.received

/-- The call performs the effects, with commands of the facade. -/
structure Performs (before : PowerCoordinatorState) (turn : CoordinatorTurn)
    (after : PowerCoordinatorState) : Prop where
  command : ∀ command, turn.call.command = some command → command.IsAdmitted
  performs : (turn.call.action.run before).Performs turn.effects ((), after)
  answered : turn.effects.IsAnswered

variable {before after state : PowerCoordinatorState} {turn : CoordinatorTurn}
  {turns : List CoordinatorTurn}

theorem held_custody (call : CoordinatorCall) (state : PowerCoordinatorState) :
    (call.custody state).held =
      (call.command.toList.map PowerCommand.ticket : List PowerTicket) + state.tickets := by
  cases call with
  | dispatchPowerCommand command | handleCommand command => exact add_comm _ _
  | retryDeferredPowerCommand | dispatchPowerTerminal | handleTerminal =>
    exact (add_zero _).trans (zero_add _).symm

theorem Performs.balance (h : turn.Performs before after) (hsound : before.Sound) :
    after.Sound ∧ turn.effects.signalled + after.tickets = turn.got + before.tickets := by
  obtain ⟨hallows, hafter, hcustody⟩ := Program.Follows.of_performs
    (turn.call.meets_action hsound h.command) h.performs
    (CoordinatorRun.permits_of_isAnswered h.answered)
  have hheld := CoordinatorTrace.held_afterAll hallows
  rw [hcustody, held_custody] at hheld
  refine ⟨hafter, ?_⟩
  change turn.effects.signalled + (after.tickets + 0) = _ at hheld
  rw [add_zero] at hheld
  rw [hheld, got, add_left_comm, ← add_assoc]

theorem tickets_balance (h : Reaches Performs {} turns state) :
    (turns.map fun turn => turn.effects.signalled).sum + state.tickets =
      (turns.map got).sum := by
  refine And.right (a := state.Sound) ?_
  induction h with
  | refl => exact ⟨PowerCoordinatorState.sound_initial, rfl⟩
  | step _ hperforms ih =>
    obtain ⟨hsound, hbalance⟩ := hperforms.balance ih.1
    refine ⟨hsound, ?_⟩
    simp only [List.map_append, List.sum_append, List.map_cons, List.map_nil, List.sum_singleton]
    rw [add_assoc, hbalance, add_left_comm, ih.2, add_comm]

/-- The mailbox is full. -/
def deferring : CoordinatorTurn :=
  ⟨.dispatchPowerCommand CoordinatorRun.calibrationRequest, CoordinatorRun.deferringEffects⟩

theorem tickets_balance_deferring :
    ([deferring].map fun turn => turn.effects.signalled).sum +
        ({ deferred := some CoordinatorRun.calibrationRequest } : PowerCoordinatorState).tickets =
      ([deferring].map got).sum := by
  refine tickets_balance (.step .refl ⟨?_, .step (.step .done), ?_⟩)
  · rintro command ⟨⟩
    rfl
  · simp [CoordinatorTrace.IsAnswered, deferring, CoordinatorRun.deferringEffects, Custody.answers]

end CoordinatorTurn

namespace PowerSystem

variable {system : PowerSystem} {parties : List Party} {state : PowerCoordinatorState}

theorem one_live_ticket (h : Run SendsAhead parties system)
    (hidle : system.program = .done ((), state)) :
    system.pdTickets.filter (· ∉ system.cancelled) ≤
      (state.inflight.toList.map Prod.snd : List PowerTicket) := by
  have hinvariant := invariant_of_run h
  have hsettled := hinvariant.follows
  rw [hidle] at hsettled
  have hsent : system.custody.sent = state.inflight.map Prod.snd := congrArg Custody.sent hsettled.2
  have hle := hinvariant.outstanding
  rw [hsent] at hle
  cases hinflight : state.inflight with
  | none | some => rwa [hinflight] at hle

/-- The automatic request waits in the mailbox of the PD service. -/
theorem one_live_ticket_sent :
    ∃ parties system state, Run SendsAhead parties system ∧
      system.program = .done ((), state) ∧ (automaticRequest 1).ticket ∈ system.pdTickets ∧
        system.pdTickets.filter (· ∉ system.cancelled) ≤
          (state.inflight.toList.map Prod.snd : List PowerTicket) := by
  have h : Run SendsAhead [] {} := .refl
  replace h := h.step nofun (.client (.nextTicket (some .automaticThermal) 0))
  replace h := h.step nofun
    (.client (@ClientStep.enqueue _ (automaticRequest 1) (by decide) rfl (by decide)))
  replace h := h.step nofun (.coordinator (.receiveCommand rfl rfl))
  replace h := h.step nofun (.coordinator (.perform rfl (.readPreparation false)))
  replace h := h.step (by rintro _ _ ⟨⟩ _; decide)
    (.coordinator (.perform rfl (.sendPdCommand _ rfl)))
  exact ⟨_, _, _, h, rfl, by decide, one_live_ticket h rfl⟩

end PowerSystem

end FluxPurr.Power
