import FluxPurr.Power.Custody

/-!
# The priority of power intents

A run of the coordinator is any sequence of calls of its functions, with any answers of
the environment: the mailbox may be full at any time, the queue may hold any commands of
the facade, and the terminals may be of any ticket.  `signal_allowed_of_run` says that
every signal in every run is one that the coordinator's protocol allows, so a request is
superseded only for a reason.
-/

namespace FluxPurr.Power

open FluxPurr.Runs

/-- Why a request of the owner would be superseded if only the priorities counted. -/
def Moment.YieldsToPriority (moment : Moment) (owner : PowerIntentOwner) : Prop :=
  (∃ command, moment.admitting = some command ∧ command.isIdle) ∨
    (∃ command, moment.admitting = some command ∧ moment.place ≠ .incoming ∧
      command.IsRequestFrom owner.priority) ∨
    (∃ command, moment.coordinator.deferred = some command ∧ moment.place ≠ .deferred ∧
      command.IsRequestFrom owner.priority) ∨
    (∃ current ticket, moment.coordinator.inflight = some (current, ticket) ∧
      owner.priority < current.priority) ∨
    ∃ active, moment.coordinator.activeOwner = some active ∧ owner.priority < active.priority

/-- The functions of the coordinator, and the two branches of its task. -/
inductive CoordinatorCall where
  | dispatchPowerCommand (command : PowerCommand)
  | retryDeferredPowerCommand
  | dispatchPowerTerminal (ticket : PowerTicket) (outcome : TicketOutcome)
  | handleCommand (command : PowerCommand)
  | handleTerminal (ticket : PowerTicket) (outcome : TicketOutcome)

namespace CoordinatorCall

def action : CoordinatorCall → Coordinator Unit
  | dispatchPowerCommand command => do
      let _ ← Coordinator.dispatchPowerCommand command
  | retryDeferredPowerCommand => Coordinator.retryDeferredPowerCommand
  | dispatchPowerTerminal ticket outcome => do
      let _ ← Coordinator.dispatchPowerTerminal ticket outcome
  | handleCommand command => Coordinator.handleCommand command
  | handleTerminal ticket outcome => Coordinator.handleTerminal ticket outcome

/-- The command that comes with the call. -/
def command : CoordinatorCall → Option PowerCommand
  | dispatchPowerCommand command | handleCommand command => some command
  | retryDeferredPowerCommand | dispatchPowerTerminal _ _ | handleTerminal _ _ => none

/-- The custody in which the call starts. -/
def custody (call : CoordinatorCall) (state : PowerCoordinatorState) : Custody :=
  match call with
  | dispatchPowerCommand command | handleCommand command => state.custody {command.ticket}
  | dispatchPowerTerminal ticket _ | handleTerminal ticket _ =>
      (state.custody 0).receiveTerminal ticket
  | retryDeferredPowerCommand => state.custody 0

variable {call : CoordinatorCall} {state : PowerCoordinatorState}

theorem meets_action (call : CoordinatorCall) (h : state.Sound)
    (hcommand : ∀ command, call.command = some command → command.IsAdmitted) :
    Meets coordinatorDiscipline call.action state (call.custody state)
      fun _ after custody => after.Sound ∧ custody = after.custody 0 := by
  cases call with
  | dispatchPowerCommand command =>
    change Meets coordinatorDiscipline
      (Coordinator.dispatchPowerCommand command >>= fun _ => pure ()) state
      (state.custody (command.ticket ::ₘ 0)) _
    refine (Coordinator.meets_dispatchPowerCommand h (hcommand command rfl)).bind ?_
    rintro failedOwner after custody ⟨hsound, rfl, -⟩
    exact ⟨hsound, rfl⟩
  | retryDeferredPowerCommand => exact Coordinator.meets_retryDeferredPowerCommand h
  | dispatchPowerTerminal ticket outcome =>
    exact (Coordinator.meets_dispatchPowerTerminal ticket outcome h).bind
      fun _ _ _ hafter => hafter
  | handleCommand command => exact Coordinator.meets_handleCommand h (hcommand command rfl)
  | handleTerminal ticket outcome => exact Coordinator.meets_handleTerminal ticket outcome h

end CoordinatorCall

abbrev CoordinatorTrace : Type := List (Σ effect, PowerEffect.Answer effect)

/-- The commands that are received are those of the facade. -/
def CoordinatorTrace.IsAnswered (trace : CoordinatorTrace) : Prop :=
  ∀ answered ∈ trace, Custody.answers answered.1 answered.2

inductive CoordinatorRun : PowerCoordinatorState → CoordinatorTrace → Prop
  | start : CoordinatorRun {} []
  | call {before after : PowerCoordinatorState} {trace effects : CoordinatorTrace}
      (call : CoordinatorCall) (h : CoordinatorRun before trace)
      (hcommand : ∀ command, call.command = some command → command.IsAdmitted)
      (hperforms : (call.action.run before).Performs effects ((), after))
      (hanswered : effects.IsAnswered) :
      CoordinatorRun after (trace ++ effects)

namespace CoordinatorRun

variable {state : PowerCoordinatorState} {trace effects : CoordinatorTrace} {custody : Custody}

theorem permits_of_isAnswered (h : effects.IsAnswered) :
    coordinatorDiscipline.Permits custody effects := by
  induction effects generalizing custody with
  | nil => trivial
  | cons answered effects ih =>
    exact ⟨h answered (List.mem_cons_self ..),
      ih fun later hlater => h later (List.mem_cons_of_mem _ hlater)⟩

/-- One call keeps the state sound, and every signal in it is allowed. -/
theorem call_sound {before after : PowerCoordinatorState} (call : CoordinatorCall)
    (h : before.Sound) (hcommand : ∀ command, call.command = some command → command.IsAdmitted)
    (hperforms : (call.action.run before).Performs effects ((), after))
    (hanswered : effects.IsAnswered) :
    after.Sound ∧ ∃ custody, coordinatorDiscipline.AllowsAll custody effects := by
  obtain ⟨hallows, hsound, -⟩ := Program.Follows.of_performs
    (call.meets_action h hcommand) hperforms (permits_of_isAnswered hanswered)
  exact ⟨hsound, _, hallows⟩

theorem sound_of_run (h : CoordinatorRun state trace) : state.Sound := by
  induction h with
  | start => exact PowerCoordinatorState.sound_initial
  | call call _ hcommand hperforms hanswered ih =>
    exact (call_sound call ih hcommand hperforms hanswered).1

theorem signal_allowed_of_run (h : CoordinatorRun state trace) {moment : Moment}
    {ticket : PowerTicket} {outcome : TicketOutcome}
    (hsignal : ⟨.signalTicket moment ticket outcome, ()⟩ ∈ trace) :
    moment.Allows ticket outcome := by
  induction h with
  | start => cases hsignal
  | call call hbefore hcommand hperforms hanswered ih =>
    rcases List.mem_append.mp hsignal with hearlier | hnow
    · exact ih hearlier
    · obtain ⟨custody, hallows⟩ :=
        (call_sound call hbefore.sound_of_run hcommand hperforms hanswered).2
      obtain ⟨custody, hallowed⟩ := hallows.allows_of_mem hnow
      exact hallowed.2

/-- A request is superseded only for a reason, and one in flight only by an idle command
or by a request of a higher owner. -/
theorem superseded_only_with_reason (h : CoordinatorRun state trace) {moment : Moment}
    {ticket : PowerTicket} {owner : PowerIntentOwner}
    (hsignal : ⟨.signalTicket moment ticket .superseded, ()⟩ ∈ trace)
    (howner : ticket.owner = some owner) :
    moment.Justifies owner ∧ (moment.place = .inflight → moment.Outranks owner) :=
  h.signal_allowed_of_run hsignal rfl owner howner

/-! ## A deferred request and a refresh -/

def calibrationRequest : PowerCommand :=
  .request .calibration
    { mode := .fixed
      voltageMv := 12000
      operatingCurrentMa := 3000
      calibration := true
      ppsRange := none }
    ⟨some .calibration, 1, 0⟩

def refresh : PowerCommand := .refreshCapabilities ⟨none, 2, 1⟩

/-- The mailbox is full. -/
def deferringEffects : CoordinatorTrace :=
  [⟨.readPreparation, false⟩, ⟨.sendPdCommand calibrationRequest.pdCommand, false⟩]

def refreshMoment : Moment where
  place := .deferred
  admitting := some refresh
  failedOwner := none
  coordinator := {}

def refreshEffects : CoordinatorTrace :=
  [⟨.readPreparation, false⟩,
    ⟨.signalTicket refreshMoment calibrationRequest.ticket .superseded, ()⟩,
    ⟨.sendPdCommand refresh.pdCommand, true⟩]

theorem refresh_after_deferred_request :
    CoordinatorRun
      { inflight := some (.automaticThermal, refresh.ticket), inflightRefresh := true }
      (deferringEffects ++ refreshEffects) := by
  have hdeferring : CoordinatorRun { deferred := some calibrationRequest }
      ([] ++ deferringEffects) := by
    refine .call (.dispatchPowerCommand calibrationRequest) .start ?_ ?_ ?_
    · rintro command ⟨⟩
      rfl
    · exact .step (.step .done)
    · simp [CoordinatorTrace.IsAnswered, deferringEffects, Custody.answers]
  refine .call (.dispatchPowerCommand refresh) hdeferring ?_ ?_ ?_
  · rintro command ⟨⟩
    rfl
  · exact .step (.step (.step .done))
  · simp [CoordinatorTrace.IsAnswered, refreshEffects, Custody.answers]

/-- A refresh supersedes a deferred request. -/
theorem superseded_for_less_than_priority :
    ¬ ∀ (state : PowerCoordinatorState) (trace : CoordinatorTrace), CoordinatorRun state trace →
      ∀ (moment : Moment) (ticket : PowerTicket) (owner : PowerIntentOwner),
        ⟨.signalTicket moment ticket .superseded, ()⟩ ∈ trace → ticket.owner = some owner →
          moment.YieldsToPriority owner := by
  intro h
  have hsignal : ⟨.signalTicket refreshMoment calibrationRequest.ticket .superseded, ()⟩ ∈
      deferringEffects ++ refreshEffects :=
    List.mem_append_right _ (List.mem_cons_of_mem _ (List.mem_cons_self ..))
  rcases h _ _ refresh_after_deferred_request _ _ .calibration hsignal rfl with
    ⟨command, hcommand, hidle⟩ | ⟨command, hcommand, -, hrequest⟩ | ⟨command, hcommand, -⟩ |
      ⟨current, ticket, hinflight, -⟩ | ⟨active, hactive, -⟩
  · obtain rfl : refresh = command := Option.some.inj hcommand
    cases hidle
  · obtain rfl : refresh = command := Option.some.inj hcommand
    obtain ⟨owner, howner, -⟩ := hrequest
    cases howner
  · cases hcommand
  · cases hinflight
  · cases hactive

theorem refresh_run_superseded_with_reason :
    refreshMoment.Justifies .calibration ∧
      (refreshMoment.place = .inflight → refreshMoment.Outranks .calibration) :=
  superseded_only_with_reason refresh_after_deferred_request
    (List.mem_append_right _ (List.mem_cons_of_mem _ (List.mem_cons_self ..))) rfl

end CoordinatorRun

end FluxPurr.Power
