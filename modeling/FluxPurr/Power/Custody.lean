import FluxPurr.Power.Coordinator
import Mathlib.Algebra.Order.Group.Multiset
import Mathlib.Tactic.Abel

/-!
# What the coordinator may do

`coordinatorDiscipline` is the protocol of the coordinator towards the clients and the PD
service.  Its ghost value is the custody: the tickets that the coordinator has to end, and
the ticket that it has sent to the PD service and still waits for.

* A signal ends a ticket that is held, and a request is superseded only for one of the
  reasons of `Moment.Justifies`.
* A command is sent only while nothing is waited for, and only what is waited for is
  cancelled.

Every function of the coordinator follows it (`handleCommand_meets`,
`handleTerminal_meets`), with one lemma for each function: it says what the function does
to the state and to the custody.
-/

namespace FluxPurr.Power

open FluxPurr.Runs

/-! ## Reasons -/

/-- The command is a request of an owner with at least this priority. -/
def PowerCommand.IsRequestFrom (command : PowerCommand) (priority : ℕ) : Prop :=
  ∃ owner, command.owner = some owner ∧ priority ≤ owner.priority

/-- Why a request of the owner may be superseded. -/
inductive Moment.Justifies (moment : Moment) (owner : PowerIntentOwner) : Prop
  | idle {command : PowerCommand} (hadmitting : moment.admitting = some command)
      (hidle : command.isIdle)
  | admitted {command : PowerCommand} (hadmitting : moment.admitting = some command)
      (hother : moment.place ≠ .incoming) (hrequest : command.IsRequestFrom owner.priority)
  | deferred {command : PowerCommand} (hdeferred : moment.coordinator.deferred = some command)
      (hother : moment.place ≠ .deferred) (hrequest : command.IsRequestFrom owner.priority)
  | active {active : PowerIntentOwner} (hactive : moment.coordinator.activeOwner = some active)
      (hpriority : owner.priority < active.priority)
  /-- A refresh that is in flight counts as a request of the lowest owner. -/
  | inflight {current : PowerIntentOwner} {ticket : PowerTicket}
      (hinflight : moment.coordinator.inflight = some (current, ticket))
      (hidle : moment.coordinator.inflightIdle = false)
      (hcurrent : ticket.owner = some current ∨ current = .automaticThermal)
      (hother : moment.place = .incoming) (hpriority : owner.priority ≤ current.priority)
  | refresh {command : PowerCommand} (hadmitting : moment.admitting = some command)
      (hrefresh : command.isRefresh) (hdeferred : moment.place = .deferred)
  | failed {failed : PowerIntentOwner} (hfailed : moment.failedOwner = some failed)
      (hqueued : moment.place = .queued) (hpriority : owner.priority ≤ failed.priority)
  /-- The PD service has ended it. -/
  | terminal (hterminal : moment.place = .terminal)

/-- A request in flight gives way to an idle command and to a higher owner. -/
def Moment.Outranks (moment : Moment) (owner : PowerIntentOwner) : Prop :=
  ∃ command, moment.admitting = some command ∧
    (command.isIdle ∨ command.IsRequestFrom (owner.priority + 1))

/-- A signal of the coordinator ends a ticket for a reason. -/
def Moment.Allows (moment : Moment) (ticket : PowerTicket) (outcome : TicketOutcome) : Prop :=
  outcome = .superseded → ∀ owner, ticket.owner = some owner →
    moment.Justifies owner ∧ (moment.place = .inflight → moment.Outranks owner)

/-! ## Custody -/

structure Custody where
  held : Multiset PowerTicket
  sent : Option PowerTicket

open Custody

def Custody.allows (custody : Custody) : PowerEffect → Prop
  | .readPreparation | .receiveCommand => True
  | .sendPdCommand _ => custody.sent = none
  | .cancelPdServiceTicket ticket => custody.sent = some ticket
  | .signalTicket moment ticket outcome => ticket ∈ custody.held ∧ moment.Allows ticket outcome

def Custody.answers : (effect : PowerEffect) → effect.Answer → Prop
  | .receiveCommand, some command => command.IsAdmitted
  | .receiveCommand, none => True
  | .readPreparation, _ | .sendPdCommand _, _ | .cancelPdServiceTicket _, _
  | .signalTicket _ _ _, _ => True

def Custody.after (custody : Custody) : (effect : PowerEffect) → effect.Answer → Custody
  | .receiveCommand, some command => { custody with held := command.ticket ::ₘ custody.held }
  | .sendPdCommand command, true => { custody with sent := some command.ticket }
  | .cancelPdServiceTicket _, _ => { custody with sent := none }
  | .signalTicket _ ticket _, _ => { custody with held := custody.held.erase ticket }
  | .readPreparation, _ | .receiveCommand, none | .sendPdCommand _, false => custody

/-- A terminal has arrived: what it ends is not waited for any more. -/
def Custody.receiveTerminal (custody : Custody) (ticket : PowerTicket) : Custody :=
  { custody with sent := custody.sent.filter (· ≠ ticket) }

def coordinatorDiscipline : Discipline PowerEffect PowerEffect.Answer Custody where
  Allows := allows
  Answers _ := answers
  after := after

namespace PowerCoordinatorState

def tickets (state : PowerCoordinatorState) : Multiset PowerTicket :=
  (state.inflight.toList.map Prod.snd : List PowerTicket) +
    (state.joinedRefresh : Multiset PowerTicket) +
    (state.deferred.toList.map PowerCommand.ticket : List PowerTicket)

/-- The custody of the coordinator in this state, with further tickets at hand. -/
def custody (state : PowerCoordinatorState) (rest : Multiset PowerTicket) : Custody where
  held := state.tickets + rest
  sent := state.inflight.map Prod.snd

/-- The state between the signal of a terminal and those of the joined refreshes. -/
def afterTerminal (state : PowerCoordinatorState)
    (outcome : TicketOutcome) : PowerCoordinatorState :=
  { state with
    activeOwner := activeOwnerAfterTerminal state.activeOwner (state.inflight.map Prod.fst)
      state.inflightRefresh state.inflightIdle outcome
    inflight := none
    inflightRefresh := false
    inflightIdle := false }

structure Sound (state : PowerCoordinatorState) : Prop where
  inflight : ∀ owner ticket, state.inflight = some (owner, ticket) →
    (ticket.owner = some owner ∧ state.inflightRefresh = false ∧ state.inflightIdle = false) ∨
      ticket.owner = none ∧ owner = .automaticThermal
  joined : ∀ ticket ∈ state.joinedRefresh, ticket.owner = none
  settled : state.inflight = none → state.joinedRefresh = [] ∧ state.inflightRefresh = false
  deferred : ∀ command, state.deferred = some command → command.IsAdmitted

variable {state : PowerCoordinatorState}

theorem tickets_of_inflight {owner : PowerIntentOwner} {ticket : PowerTicket}
    (h : state.inflight = some (owner, ticket)) :
    state.tickets = ticket ::ₘ ({ state with inflight := none } : PowerCoordinatorState).tickets := by
  simp only [tickets, h, Option.toList, List.map_cons, List.map_nil, ← Multiset.singleton_add,
    Multiset.coe_singleton, Multiset.coe_nil]
  abel

theorem tickets_of_deferred {command : PowerCommand} (h : state.deferred = some command) :
    state.tickets =
      command.ticket ::ₘ ({ state with deferred := none } : PowerCoordinatorState).tickets := by
  simp only [tickets, h, Option.toList, List.map_cons, List.map_nil, ← Multiset.singleton_add,
    Multiset.coe_singleton, Multiset.coe_nil]
  abel

theorem sound_initial : Sound {} where
  inflight _ _ hnone := nomatch hnone
  joined _ hnone := nomatch hnone
  settled _ := ⟨rfl, rfl⟩
  deferred _ hnone := nomatch hnone

end PowerCoordinatorState

open PowerCoordinatorState

/-! ## Signals -/

namespace Coordinator

variable {state : PowerCoordinatorState} {rest : Multiset PowerTicket}
  {command : PowerCommand} {ticket : PowerTicket} {outcome : TicketOutcome}
  {place : SignalPlace} {admitting : Option PowerCommand} {failedOwner : Option PowerIntentOwner}

variable {custody : Custody}

theorem meets_effect (effect : PowerEffect)
    {post : effect.Answer → PowerCoordinatorState → Custody → Prop} :
    Meets coordinatorDiscipline (perform effect) state custody post ↔
      custody.allows effect ∧ ∀ answer, answers effect answer →
        post answer state (custody.after effect answer) := Iff.rfl

theorem meets_signalTicket {post : Unit → PowerCoordinatorState → Custody → Prop} :
    Meets coordinatorDiscipline (signalTicket place admitting failedOwner ticket outcome) state
        custody post ↔
      (ticket ∈ custody.held ∧
        Moment.Allows { place, admitting, failedOwner, coordinator := state } ticket outcome) ∧
        post () state { custody with held := custody.held.erase ticket } := by
  constructor
  · intro h
    exact ⟨h.1, h.2 () trivial⟩
  · intro h
    exact ⟨h.1, fun _ _ => h.2⟩

theorem Moment.allows_of_owner_none {moment : Moment} (h : ticket.owner = none) :
    moment.Allows ticket outcome := by
  intro _ owner howner
  rw [h] at howner
  cases howner

/-- Only refreshes join another one, and their tickets are of nobody. -/
theorem meets_signalJoined (rest : Multiset PowerTicket)
    (tickets : List PowerTicket) (howners : ∀ ticket ∈ tickets, ticket.owner = none)
    (hjoined : state.joinedRefresh = tickets.reverse)
    (hheld : custody.held = state.tickets + rest) :
    Meets coordinatorDiscipline (signalJoined admitting outcome tickets) state custody
      fun _ after custody' =>
        after = { state with joinedRefresh := [] } ∧
          custody' = { custody with held := after.tickets + rest } := by
  induction tickets generalizing state custody with
  | nil =>
    have hsame : { state with joinedRefresh := [] } = state := by
      rw [← List.reverse_nil, ← hjoined]
    rw [signalJoined, meets_pure, hsame, ← hheld]
    exact ⟨rfl, rfl⟩
  | cons ticket tickets ih =>
    have hshorter : state.tickets + rest =
        ticket ::ₘ (({ state with joinedRefresh := tickets.reverse } :
          PowerCoordinatorState).tickets + rest) := by
      simp only [PowerCoordinatorState.tickets, hjoined, List.reverse_cons,
        ← Multiset.coe_add, ← Multiset.coe_singleton, ← Multiset.singleton_add]
      abel
    rw [signalJoined, meets_bind, meets_modify, meets_bind, meets_signalTicket]
    refine ⟨⟨?_, Moment.allows_of_owner_none (howners ticket (List.mem_cons_self ..))⟩, ?_⟩
    · rw [hheld, hshorter]
      exact Multiset.mem_cons_self _ _
    · rw [hheld, hshorter, Multiset.erase_cons_head]
      exact ih (fun ticket hticket => howners ticket (List.mem_cons_of_mem _ hticket)) rfl rfl

/-! ## Admission -/

theorem meets_settleInflight {owner : PowerIntentOwner} (h : state.Sound)
    (hinflight : state.inflight = some (owner, ticket))
    (hreason : ∀ owner, ticket.owner = some owner →
      command.isIdle ∨ command.IsRequestFrom (owner.priority + 1)) :
    Meets coordinatorDiscipline (settleInflight command .superseded) state (state.custody rest)
      fun _ after custody =>
        after = { state with inflight := none, inflightRefresh := false, joinedRefresh := [] } ∧
          custody = after.custody rest := by
  have hheld : state.tickets + rest =
      ticket ::ₘ (({ state with inflight := none } : PowerCoordinatorState).tickets + rest) := by
    rw [tickets_of_inflight hinflight, Multiset.cons_add]
  have hallows : Moment.Allows
      { place := .inflight
        admitting := some command
        failedOwner := none
        coordinator := { state with inflight := none } } ticket .superseded := by
    intro _ owner howner
    refine ⟨?_, fun _ => ⟨command, rfl, hreason owner howner⟩⟩
    rcases hreason owner howner with hidle | ⟨requesting, hrequesting, hpriority⟩
    · exact .idle rfl hidle
    · exact .admitted rfl (fun hplace => nomatch hplace)
        ⟨requesting, hrequesting, Nat.le_of_succ_le hpriority⟩
  rw [settleInflight, meets_bind, meets_get]
  simp only [hinflight]
  rw [meets_bind, meets_set, meets_bind]
  rw [meets_effect]
  refine ⟨by rw [custody, hinflight]; rfl, fun _ _ => ?_⟩
  rw [meets_bind, meets_signalTicket]
  refine ⟨⟨?_, hallows⟩, ?_⟩
  · change ticket ∈ state.tickets + rest
    rw [hheld]
    exact Multiset.mem_cons_self _ _
  · rw [meets_bind, meets_modify, meets_bind, meets_get]
    have hrest : (after (state.custody rest) (.cancelPdServiceTicket ticket) ()).held.erase
        ticket = ({ state with inflight := none, inflightRefresh := false } :
          PowerCoordinatorState).tickets + rest := by
      change (state.tickets + rest).erase ticket = _
      rw [hheld, Multiset.erase_cons_head]
      rfl
    refine (meets_signalJoined rest state.joinedRefresh.reverse ?_ ?_ hrest).mono ?_
    · intro ticket hticket
      exact h.joined ticket (List.mem_reverse.mp hticket)
    · exact (List.reverse_reverse _).symm
    · rintro _ after custody ⟨rfl, rfl⟩
      exact ⟨rfl, rfl⟩

/-- What an admission decides, with the facts that it rests on. -/
inductive AdmissionCase (command : PowerCommand) (state : PowerCoordinatorState) :
    PowerCommandAdmissionDecision → Prop
  | joinRefresh (hrefresh : command.isRefresh) (hinflight : state.inflightRefresh) :
      AdmissionCase command state .joinRefresh
  | dispatch (hinflight : state.inflight = none) : AdmissionCase command state .dispatch
  | supersedeInflight {owner : PowerIntentOwner} {ticket : PowerTicket}
      (hinflight : state.inflight = some (owner, ticket))
      (hreason : command.isIdle ∨ state.inflightIdle ∨ command.IsRequestFrom (owner.priority + 1)) :
      AdmissionCase command state .supersedeInflight
  | supersedeIncoming {current : PowerIntentOwner} {ticket : PowerTicket}
      (hinflight : state.inflight = some (current, ticket))
      (hreason : ∀ owner, command.owner = some owner →
        state.inflightIdle = false ∧ owner.priority ≤ current.priority) :
      AdmissionCase command state .supersedeIncoming

theorem admission_case (command : PowerCommand) (state : PowerCoordinatorState) :
    AdmissionCase command state
      (powerCommandAdmissionDecision command.owner command.isRefresh command.isIdle
        (state.inflight.map Prod.fst) state.inflightRefresh state.inflightIdle) := by
  unfold powerCommandAdmissionDecision
  split_ifs with hjoin
  · rw [shouldJoinRefresh, Bool.and_eq_true] at hjoin
    exact .joinRefresh hjoin.1 hjoin.2
  · rcases hinflight : state.inflight with _ | ⟨current, ticket⟩
    · exact .dispatch hinflight
    · simp only [Option.map_some]
      split_ifs with hsupersede
      · refine .supersedeInflight hinflight ?_
        rcases hsupersede with hidle | ⟨hinflightIdle, -⟩ | hhigher
        · exact Or.inl hidle
        · exact Or.inr (Or.inl hinflightIdle)
        · obtain ⟨owner, howner, hpriority⟩ := (Option.any_eq_true _ _).mp hhigher
          exact Or.inr (Or.inr ⟨owner, howner, of_decide_eq_true hpriority⟩)
      · refine .supersedeIncoming hinflight ?_
        intro owner howner
        rw [not_or, not_or] at hsupersede
        obtain ⟨-, hinflightIdle, hhigher⟩ := hsupersede
        have hconcrete : command.isRefresh = false := by
          cases command with
          | request => rfl
          | refreshCapabilities | idle => cases howner
        simp only [howner, hconcrete, Option.isSome_some, Option.any_some,
          decide_eq_true_eq] at hinflightIdle hhigher
        exact ⟨by simpa using hinflightIdle, Nat.le_of_not_lt hhigher⟩

theorem PowerCommand.owner_of_isRefresh (h : command.isRefresh) : command.owner = none := by
  cases command with
  | refreshCapabilities => rfl
  | request | idle => cases h

theorem erase_ticket_custody : (state.custody (command.ticket ::ₘ rest)).held.erase command.ticket =
      state.tickets + rest := by
  rw [custody, Multiset.add_cons, Multiset.erase_cons_head]

theorem ticket_mem_custody : command.ticket ∈ (state.custody (command.ticket ::ₘ rest)).held :=
  Multiset.mem_add.mpr (Or.inr (Multiset.mem_cons_self _ _))

/-- An admission either deals with the command or leaves nothing in flight. -/
theorem meets_supersedeOrJoinPowerCommand (h : state.Sound) (hcommand : command.IsAdmitted) :
    Meets coordinatorDiscipline (supersedeOrJoinPowerCommand command) state
      (state.custody (command.ticket ::ₘ rest)) fun settled after custody =>
        after.Sound ∧ after.deferred = state.deferred ∧
          custody = after.custody (if settled then rest else command.ticket ::ₘ rest) ∧
          (settled = false → after.inflight = none) := by
  have hcase := admission_case command state
  rw [supersedeOrJoinPowerCommand, meets_bind, meets_get]
  generalize powerCommandAdmissionDecision command.owner command.isRefresh command.isIdle
    (state.inflight.map Prod.fst) state.inflightRefresh state.inflightIdle = decision at hcase
  cases hcase with
  | joinRefresh hrefresh hinflight =>
    have howner : command.ticket.owner = none :=
      hcommand.trans (PowerCommand.owner_of_isRefresh hrefresh)
    by_cases hfull : state.joinedRefresh.length < powerCommandsCapacity
    · simp only [if_pos hfull]
      rw [meets_bind, meets_set, meets_pure]
      refine ⟨⟨h.inflight, ?_, ?_, h.deferred⟩, rfl, ?_, fun hsettled => nomatch hsettled⟩
      · intro ticket hticket
        rcases List.mem_append.mp hticket with hbefore | hnew
        · exact h.joined ticket hbefore
        · rw [List.mem_singleton.mp hnew]
          exact howner
      · intro hnone
        rw [(h.settled hnone).2] at hinflight
        cases hinflight
      · simp only [custody, tickets, if_true,
          ← Multiset.coe_add, Multiset.coe_singleton, ← Multiset.singleton_add]
        congr 1
        abel
    · simp only [if_neg hfull]
      rw [meets_bind, meets_signalTicket]
      exact ⟨⟨ticket_mem_custody, Moment.allows_of_owner_none howner⟩, h, rfl, by
        rw [erase_ticket_custody]
        rfl, fun hsettled => nomatch hsettled⟩
  | dispatch hinflight =>
    exact ⟨h, rfl, rfl, fun _ => hinflight⟩
  | @supersedeInflight current ticket hinflight hreason =>
    have hreason' : ∀ owner, ticket.owner = some owner →
        command.isIdle ∨ command.IsRequestFrom (owner.priority + 1) := by
      intro owner howner
      rcases h.inflight current ticket hinflight with ⟨hcurrent, -, hconcrete⟩ | ⟨hnobody, -⟩
      · obtain rfl : owner = current := Option.some.inj (howner.symm.trans hcurrent)
        rcases hreason with hidle | hinflightIdle | hhigher
        · exact Or.inl hidle
        · rw [hconcrete] at hinflightIdle
          cases hinflightIdle
        · exact Or.inr hhigher
      · rw [hnobody] at howner
        cases howner
    rw [meets_bind]
    refine (meets_settleInflight h hinflight hreason').mono ?_
    rintro _ after custody ⟨rfl, rfl⟩
    refine ⟨⟨?_, ?_, fun _ => ⟨rfl, rfl⟩, h.deferred⟩, rfl, rfl, fun _ => rfl⟩
    · intro owner ticket hnone
      cases hnone
    · intro ticket hnone
      cases hnone
  | @supersedeIncoming current ticket hinflight hreason =>
    have hcurrent : ticket.owner = some current ∨ current = .automaticThermal :=
      (h.inflight current ticket hinflight).imp And.left And.right
    rw [meets_bind, meets_signalTicket]
    refine ⟨⟨ticket_mem_custody, fun _ owner howner => ?_⟩, h, rfl, ?_, nofun⟩
    · obtain ⟨hconcrete, hpriority⟩ := hreason owner (hcommand.symm.trans howner)
      exact ⟨.inflight hinflight hconcrete hcurrent rfl hpriority, nofun⟩
    · rw [erase_ticket_custody]
      rfl

theorem isRequestFrom_of_le_priorityOf {priority : ℕ} (hpositive : 0 < priority)
    (h : priority ≤ priorityOf command.owner) : command.IsRequestFrom priority := by
  cases howner : command.owner with
  | none =>
    rw [howner] at h
    exact absurd (Nat.lt_of_lt_of_le hpositive h) (Nat.lt_irrefl 0)
  | some owner =>
    rw [howner] at h
    exact ⟨owner, howner, h⟩

theorem meets_replaceDeferred (h : state.Sound) (hcommand : command.IsAdmitted) :
    Meets coordinatorDiscipline (replaceDeferred command) state
      (state.custody (command.ticket ::ₘ rest)) fun goesOn after custody =>
        after.Sound ∧ custody = after.custody (if goesOn then command.ticket ::ₘ rest else rest) ∧
          (goesOn → after.deferred = none) := by
  rw [replaceDeferred, meets_bind, meets_get]
  cases hdeferred : state.deferred with
  | none => exact ⟨h, rfl, fun _ => hdeferred⟩
  | some deferred =>
    have hadmitted := h.deferred deferred hdeferred
    by_cases hreplaced : deferredCommandIsReplaced command.owner command.isRefresh
        command.isIdle deferred.owner
    · simp only [if_pos hreplaced]
      rw [meets_bind, meets_set, meets_bind, meets_signalTicket, custody,
        tickets_of_deferred hdeferred, Multiset.cons_add,
        Multiset.erase_cons_head]
      refine ⟨⟨Multiset.mem_cons_self _ _, fun _ owner howner => ⟨?_, nofun⟩⟩,
        { h with deferred := nofun }, rfl, fun _ => rfl⟩
      rw [hadmitted] at howner
      rw [deferredCommandIsReplaced, howner, Bool.or_eq_true, Bool.or_eq_true,
        decide_eq_true_eq] at hreplaced
      rcases hreplaced with (hidle | hrefresh) | hpriority
      · exact .idle rfl hidle
      · exact .refresh rfl hrefresh rfl
      · exact .admitted rfl nofun (isRequestFrom_of_le_priorityOf owner.priority_pos hpriority)
    · simp only [if_neg hreplaced]
      rw [meets_bind, meets_signalTicket, erase_ticket_custody]
      refine ⟨⟨ticket_mem_custody, fun _ owner howner => ⟨?_, nofun⟩⟩, h, rfl, nofun⟩
      rw [hcommand] at howner
      rw [deferredCommandIsReplaced, Bool.or_eq_true, not_or, decide_eq_true_eq,
        Nat.not_le, howner] at hreplaced
      have hlower : owner.priority ≤ priorityOf deferred.owner := Nat.le_of_lt hreplaced.2
      exact .deferred hdeferred nofun
        (isRequestFrom_of_le_priorityOf owner.priority_pos hlower)

theorem sound_of_sent (h : state.Sound) (hcommand : command.IsAdmitted) :
    PowerCoordinatorState.Sound
      { state with
        inflight := some (command.owner.getD .automaticThermal, command.ticket)
        inflightRefresh := command.isRefresh
        inflightIdle := command.isIdle } where
  inflight := by
    rintro owner ticket ⟨⟩
    cases command with
    | request owner contract ticket => exact Or.inl ⟨hcommand, rfl, rfl⟩
    | refreshCapabilities ticket | idle ticket minimumMv => exact Or.inr ⟨hcommand, rfl⟩
  __ := h
  settled := fun hnone => nomatch hnone

/-- With nothing in flight and nothing deferred, the command is in flight or deferred
afterwards. -/
theorem meets_sendOrDefer (h : state.Sound) (hcommand : command.IsAdmitted)
    (hinflight : state.inflight = none) (hdeferred : state.deferred = none) :
    Meets coordinatorDiscipline (sendOrDefer command) state
      (state.custody (command.ticket ::ₘ rest)) fun failedOwner after custody =>
        after.Sound ∧ custody = after.custody rest ∧
          ∀ owner, failedOwner = some owner →
            ∃ command, after.deferred = some command ∧ command.owner = some owner := by
  rw [sendOrDefer, meets_bind, meets_effect]
  refine ⟨by rw [allows, custody, hinflight]; rfl, ?_⟩
  rintro (_ | _) -
  · rw [meets_bind, meets_get]
    simp only [hdeferred, Option.isSome_none, Bool.false_eq_true, if_false]
    rw [meets_bind, meets_set, meets_pure]
    refine ⟨{ h with deferred := ?_ }, ?_, fun owner howner => ⟨command, rfl, howner⟩⟩
    · rintro _ ⟨⟩
      exact hcommand
    · simp only [after, custody, tickets,
        hdeferred, Option.toList, List.map_cons, List.map_nil, Multiset.coe_singleton,
        Multiset.coe_nil, ← Multiset.singleton_add]
      congr 1
      abel
  · rw [meets_bind, meets_get]
    simp only [if_true]
    rw [meets_bind, meets_set, meets_pure]
    refine ⟨sound_of_sent h hcommand, ?_, fun owner howner => nomatch howner⟩
    simp only [after, custody, tickets,
      hinflight, Option.toList, List.map_cons, List.map_nil, Multiset.coe_singleton,
      Multiset.coe_nil, ← Multiset.singleton_add, Option.map_some,
      PowerCommand.ticket_pdCommand]
    congr 1
    abel

/-- What a dispatch leaves behind: the command is in custody or ended, and the owner that
is returned has its request deferred. -/
def Dispatched (rest : Multiset PowerTicket) (failedOwner : Option PowerIntentOwner)
    (after : PowerCoordinatorState) (custody : Custody) : Prop :=
  after.Sound ∧ custody = after.custody rest ∧
    ∀ owner, failedOwner = some owner →
      ∃ command, after.deferred = some command ∧ command.owner = some owner

theorem Dispatched.of_ended (h : state.Sound)
    (hcustody : custody = state.custody rest) : Dispatched rest none state custody :=
  ⟨h, hcustody, fun _ howner => nomatch howner⟩

theorem meets_admitPowerCommand (h : state.Sound) (hcommand : command.IsAdmitted)
    (hdeferred : state.deferred = none) :
    Meets coordinatorDiscipline (admitPowerCommand command) state
      (state.custody (command.ticket ::ₘ rest)) (Dispatched rest) := by
  rw [admitPowerCommand, meets_bind, meets_get]
  by_cases hsuperseded : ownerIsSuperseded command.owner state.activeOwner
  · rw [if_pos hsuperseded, meets_bind, meets_signalTicket]
    refine ⟨⟨ticket_mem_custody, fun _ owner howner => ?_⟩, .of_ended h ?_⟩
    · rw [hcommand] at howner
      rw [ownerIsSuperseded, howner, Option.any_some, Option.any_eq_true] at hsuperseded
      obtain ⟨active, hactive, hpriority⟩ := hsuperseded
      exact ⟨.active hactive (of_decide_eq_true hpriority), nofun⟩
    · rw [erase_ticket_custody]
      rfl
  · rw [if_neg hsuperseded]
    refine (meets_supersedeOrJoinPowerCommand h hcommand).bind ?_
    rintro (_ | _) after custody ⟨hsound, hkept, rfl, hnothing⟩
    · exact meets_sendOrDefer hsound hcommand (hnothing rfl) (hkept.trans hdeferred)
    · exact .of_ended hsound rfl

theorem meets_dispatchPowerCommand (h : state.Sound) (hcommand : command.IsAdmitted) :
    Meets coordinatorDiscipline (dispatchPowerCommand command) state
      (state.custody (command.ticket ::ₘ rest)) (Dispatched rest) := by
  rw [dispatchPowerCommand, meets_bind, meets_effect]
  refine ⟨trivial, fun preparing _ => ?_⟩
  by_cases hallowed : powerCommandAllowedDuringPreparation command preparing
  · rw [if_pos hallowed]
    refine (meets_replaceDeferred h hcommand).bind ?_
    rintro (_ | _) after custody ⟨hsound, rfl, hfree⟩
    · exact .of_ended hsound rfl
    · exact meets_admitPowerCommand hsound hcommand (hfree rfl)
  · rw [if_neg hallowed, meets_bind, meets_signalTicket]
    refine ⟨⟨ticket_mem_custody, fun houtcome => nomatch houtcome⟩, .of_ended h ?_⟩
    change _ = state.custody rest
    simp only [after]
    rw [erase_ticket_custody]
    rfl

/-! ## The backlog of a failed owner -/

theorem priority_le_of_preempted {failedOwner owner : PowerIntentOwner}
    (h : queuedCommandIsPreemptedByFailedOwner command failedOwner)
    (howner : command.owner = some owner) : owner.priority ≤ failedOwner.priority := by
  cases command with
  | request requesting contract ticket =>
    obtain rfl : requesting = owner := Option.some.inj howner
    simpa [queuedCommandIsPreemptedByFailedOwner, PowerCommand.isIdle, PowerCommand.isRefresh,
      PowerCommand.owner] using h
  | refreshCapabilities | idle => cases howner

/-- Only requests of at most the failed owner's priority are picked out. -/
structure BacklogSound (failedOwner : PowerIntentOwner)
    (backlog : List PowerTicket × List PowerCommand) : Prop where
  superseded : ∀ ticket ∈ backlog.1, ∀ owner, ticket.owner = some owner →
    owner.priority ≤ failedOwner.priority
  dispatchable : ∀ command ∈ backlog.2, command.IsAdmitted

def backlogTickets (backlog : List PowerTicket × List PowerCommand) : Multiset PowerTicket :=
  (backlog.1 : Multiset PowerTicket) +
    (backlog.2.map PowerCommand.ticket : List PowerTicket)

theorem meets_collectFailedOwnerBacklog {failedOwner : PowerIntentOwner} (count : ℕ)
    {superseded : List PowerTicket} {dispatchable : List PowerCommand}
    {held : Multiset PowerTicket} {sent : Option PowerTicket}
    (h : BacklogSound failedOwner (superseded, dispatchable)) :
    Meets coordinatorDiscipline
      (collectFailedOwnerBacklog failedOwner count superseded dispatchable) state
      { held := held + backlogTickets (superseded, dispatchable), sent }
      fun backlog after custody =>
        after = state ∧ BacklogSound failedOwner backlog ∧
          custody = { held := held + backlogTickets backlog, sent } := by
  induction count generalizing superseded dispatchable with
  | zero => exact ⟨rfl, h, rfl⟩
  | succ count ih =>
    rw [collectFailedOwnerBacklog, meets_bind, meets_effect]
    refine ⟨trivial, ?_⟩
    rintro (_ | command) hadmitted
    · exact ⟨rfl, h, rfl⟩
    · replace hadmitted : command.IsAdmitted := hadmitted
      by_cases hpreempted : queuedCommandIsPreemptedByFailedOwner command failedOwner
      · have hlonger : BacklogSound failedOwner
            (superseded ++ [command.ticket], dispatchable) := by
          refine ⟨fun ticket hticket owner howner => ?_, h.dispatchable⟩
          rcases List.mem_append.mp hticket with hbefore | hnew
          · exact h.superseded ticket hbefore owner howner
          · rw [List.mem_singleton.mp hnew, hadmitted] at howner
            exact priority_le_of_preempted hpreempted howner
        have hheld : command.ticket ::ₘ (held + backlogTickets (superseded, dispatchable)) =
            held + backlogTickets (superseded ++ [command.ticket], dispatchable) := by
          simp only [backlogTickets, ← Multiset.coe_add, Multiset.coe_singleton,
            ← Multiset.singleton_add]
          abel
        simp only [if_pos hpreempted, after, hheld]
        exact ih hlonger
      · have hlonger : BacklogSound failedOwner (superseded, dispatchable ++ [command]) := by
          refine ⟨h.superseded, fun command' hcommand => ?_⟩
          rcases List.mem_append.mp hcommand with hbefore | hnew
          · exact h.dispatchable command' hbefore
          · rw [List.mem_singleton.mp hnew]
            exact hadmitted
        have hheld : command.ticket ::ₘ (held + backlogTickets (superseded, dispatchable)) =
            held + backlogTickets (superseded, dispatchable ++ [command]) := by
          simp only [backlogTickets, List.map_append, List.map_cons, List.map_nil,
            ← Multiset.coe_add, Multiset.coe_singleton, ← Multiset.singleton_add]
          abel
        simp only [if_neg hpreempted, after, hheld]
        exact ih hlonger

/-- A queued request may be superseded for an owner that failed. -/
theorem Moment.allows_of_failed {failedOwner : PowerIntentOwner}
    (h : ∀ owner, ticket.owner = some owner → owner.priority ≤ failedOwner.priority) :
    Moment.Allows
      { place := .queued, admitting, failedOwner := some failedOwner, coordinator := state }
      ticket outcome :=
  fun _ owner howner => ⟨.failed rfl rfl (h owner howner), fun hplace => nomatch hplace⟩

theorem meets_signalSuperseded {failedOwner : PowerIntentOwner} (tickets : List PowerTicket)
    (h : ∀ ticket ∈ tickets, ∀ owner, ticket.owner = some owner →
      owner.priority ≤ failedOwner.priority) :
    Meets coordinatorDiscipline (signalSuperseded failedOwner tickets) state
      (state.custody ((tickets : Multiset PowerTicket) + rest)) fun _ after custody =>
        after = state ∧ custody = state.custody rest := by
  induction tickets with
  | nil =>
    rw [signalSuperseded, meets_pure, Multiset.coe_nil, Multiset.zero_add]
    exact ⟨rfl, rfl⟩
  | cons ticket tickets ih =>
    have hheld : (state.custody ((ticket :: tickets : List PowerTicket) + rest)).held =
        ticket ::ₘ (state.custody ((tickets : Multiset PowerTicket) + rest)).held := by
      rw [custody, ← Multiset.cons_coe, Multiset.cons_add, Multiset.add_cons]
      rfl
    rw [signalSuperseded, meets_bind, meets_signalTicket, hheld, Multiset.erase_cons_head]
    exact ⟨⟨Multiset.mem_cons_self _ _,
        Moment.allows_of_failed (h ticket (List.mem_cons_self ..))⟩,
      ih fun ticket hticket => h ticket (List.mem_cons_of_mem _ hticket)⟩

theorem meets_dispatchBacklog (commands : List PowerCommand) (priorityFloor : PowerIntentOwner)
    (h : state.Sound) (hcommands : ∀ command ∈ commands, command.IsAdmitted) :
    Meets coordinatorDiscipline (dispatchBacklog priorityFloor commands) state
      (state.custody ((commands.map PowerCommand.ticket : List PowerTicket) + rest))
      fun _ after custody => after.Sound ∧ custody = after.custody rest := by
  induction commands generalizing state priorityFloor with
  | nil =>
    rw [dispatchBacklog, meets_pure, List.map_nil, Multiset.coe_nil, Multiset.zero_add]
    exact ⟨h, rfl⟩
  | cons command commands ih =>
    have hadmitted := hcommands command (List.mem_cons_self ..)
    have hothers : ∀ command ∈ commands, command.IsAdmitted :=
      fun command hcommand => hcommands command (List.mem_cons_of_mem _ hcommand)
    rw [List.map_cons, ← Multiset.cons_coe, Multiset.cons_add, dispatchBacklog]
    by_cases hpreempted : queuedCommandIsPreemptedByFailedOwner command priorityFloor
    · have hlower : ∀ owner, command.ticket.owner = some owner →
          owner.priority ≤ priorityFloor.priority :=
        fun owner howner =>
          priority_le_of_preempted hpreempted (hadmitted.symm.trans howner)
      rw [if_pos hpreempted, meets_bind, meets_signalTicket, erase_ticket_custody]
      exact ⟨⟨ticket_mem_custody, Moment.allows_of_failed hlower⟩, ih priorityFloor h hothers⟩
    · rw [if_neg hpreempted]
      refine (meets_dispatchPowerCommand h hadmitted).bind ?_
      rintro nextFloor after custody ⟨hsound, rfl, -⟩
      exact ih (raisedFloor priorityFloor nextFloor) hsound hothers

theorem meets_settleFailedOwnerBacklog {failedOwner : PowerIntentOwner}
    {backlog : List PowerTicket × List PowerCommand} (h : state.Sound)
    (hbacklog : BacklogSound failedOwner backlog) :
    Meets coordinatorDiscipline (settleFailedOwnerBacklog failedOwner backlog) state
      (state.custody (backlogTickets backlog + rest)) fun _ after custody =>
        after.Sound ∧ custody = after.custody rest := by
  rw [settleFailedOwnerBacklog, backlogTickets, add_assoc]
  refine (meets_signalSuperseded backlog.1 hbacklog.superseded).bind ?_
  rintro _ after custody ⟨rfl, rfl⟩
  exact meets_dispatchBacklog backlog.2 failedOwner h hbacklog.dispatchable

theorem backlogSound_nil (failedOwner : PowerIntentOwner) : BacklogSound failedOwner ([], []) :=
  ⟨fun _ hticket => (nomatch hticket), fun _ hcommand => (nomatch hcommand)⟩

theorem meets_collectBacklog (failedOwner : PowerIntentOwner) (held : Multiset PowerTicket)
    (sent : Option PowerTicket) :
    Meets coordinatorDiscipline
      (collectFailedOwnerBacklog failedOwner powerCommandsCapacity [] []) state { held, sent }
      fun backlog after custody =>
        after = state ∧ BacklogSound failedOwner backlog ∧
          custody = { held := held + backlogTickets backlog, sent } := by
  have hnothing : (⟨held, sent⟩ : Custody) = ⟨held + backlogTickets ([], []), sent⟩ := by
    rw [show backlogTickets ([], []) = 0 from rfl, add_zero]
  rw [hnothing]
  exact meets_collectFailedOwnerBacklog powerCommandsCapacity (backlogSound_nil failedOwner)

theorem custody_add (tickets : Multiset PowerTicket) :
    (⟨state.tickets + rest + tickets, state.inflight.map Prod.snd⟩ : Custody) =
      state.custody (tickets + rest) := by
  simp only [custody, add_assoc, add_comm rest tickets]

theorem meets_settleAfterDispatch (failedOwner : Option PowerIntentOwner) (h : state.Sound) :
    Meets coordinatorDiscipline (settleAfterDispatch failedOwner) state (state.custody rest)
      fun _ after custody => after.Sound ∧ custody = after.custody rest := by
  cases failedOwner with
  | none => exact ⟨h, rfl⟩
  | some failedOwner =>
    rw [settleAfterDispatch]
    refine (meets_collectBacklog failedOwner _ _).bind ?_
    rintro backlog after custody ⟨rfl, hbacklog, rfl⟩
    rw [custody_add]
    exact meets_settleFailedOwnerBacklog h hbacklog

theorem meets_handleCommand (h : state.Sound) (hcommand : command.IsAdmitted) :
    Meets coordinatorDiscipline (handleCommand command) state
      (state.custody (command.ticket ::ₘ rest)) fun _ after custody =>
        after.Sound ∧ custody = after.custody rest := by
  rw [handleCommand]
  refine (meets_dispatchPowerCommand h hcommand).bind ?_
  rintro failedOwner after custody ⟨hsound, rfl, -⟩
  exact meets_settleAfterDispatch failedOwner hsound

theorem meets_retryDeferredPowerCommand (h : state.Sound) :
    Meets coordinatorDiscipline retryDeferredPowerCommand state (state.custody rest)
      fun _ after custody => after.Sound ∧ custody = after.custody rest := by
  rw [retryDeferredPowerCommand, meets_bind, meets_get]
  cases hdeferred : state.deferred with
  | none => exact ⟨h, rfl⟩
  | some command =>
    have hcustody : state.custody rest =
        ({ state with deferred := none } : PowerCoordinatorState).custody
          (command.ticket ::ₘ rest) := by
      rw [custody, tickets_of_deferred hdeferred, Multiset.cons_add, ← Multiset.add_cons]
      rfl
    have hsound : PowerCoordinatorState.Sound { state with deferred := none } :=
      { h with deferred := nofun }
    rw [hcustody]
    change Meets coordinatorDiscipline (set _ >>= fun _ => handleCommand command) _ _ _
    rw [meets_bind, meets_set]
    exact meets_handleCommand hsound (h.deferred command hdeferred)

/-! ## Terminals -/

theorem meets_dispatchPowerTerminal (ticket : PowerTicket) (outcome : TicketOutcome)
    (h : state.Sound) :
    Meets coordinatorDiscipline (dispatchPowerTerminal ticket outcome) state
      ((state.custody rest).receiveTerminal ticket) fun _ after custody =>
        after.Sound ∧ custody = after.custody rest := by
  rw [dispatchPowerTerminal, meets_bind, meets_get]
  by_cases hmatches : terminalMatchesInflight state.inflight ticket
  · obtain ⟨⟨owner, sent⟩, hinflight, hticket⟩ := (Option.any_eq_true _ _).mp hmatches
    obtain rfl : sent = ticket := of_decide_eq_true hticket
    have hheld : state.tickets + rest =
        sent ::ₘ ((state.afterTerminal outcome).tickets + rest) := by
      rw [tickets_of_inflight hinflight, Multiset.cons_add]
      rfl
    have hmember : sent ∈ state.tickets + rest := by
      rw [hheld]
      exact Multiset.mem_cons_self _ _
    have hrest : (state.tickets + rest).erase sent =
        (state.afterTerminal outcome).tickets + rest := by
      rw [hheld, Multiset.erase_cons_head]
    have hsent : ((state.custody rest).receiveTerminal sent).sent = none := by
      rw [receiveTerminal, custody, hinflight]
      simp
    rw [if_pos hmatches, meets_bind, meets_set, meets_bind, meets_signalTicket]
    refine ⟨⟨hmember, fun _ owner _ => ⟨.terminal rfl, fun hplace => nomatch hplace⟩⟩, ?_⟩
    rw [meets_bind, meets_modify, meets_bind, meets_get, meets_bind]
    refine (meets_signalJoined rest state.joinedRefresh.reverse ?_ ?_ hrest).mono ?_
    · intro ticket hticket
      exact h.joined ticket (List.mem_reverse.mp hticket)
    · exact (List.reverse_reverse _).symm
    · rintro _ after custody ⟨rfl, rfl⟩
      refine ⟨⟨?_, ?_, fun _ => ⟨rfl, rfl⟩, h.deferred⟩, ?_⟩
      · intro owner ticket hnone
        cases hnone
      · intro ticket hnone
        cases hnone
      · exact congrArg (Custody.mk _) hsent
  · have hkept : (state.custody rest).receiveTerminal ticket = state.custody rest := by
      have hother : ∀ sent, state.inflight.map Prod.snd = some sent → sent ≠ ticket := by
        rintro sent hsent rfl
        obtain ⟨current, hinflight, rfl⟩ := Option.map_eq_some_iff.mp hsent
        exact hmatches ((Option.any_eq_true _ _).mpr ⟨current, hinflight, by simp⟩)
      cases hsent : state.inflight.map Prod.snd with
      | none =>
        rw [receiveTerminal, custody, hsent, Option.filter_none]
      | some sent =>
        rw [receiveTerminal, custody, hsent]
        exact congrArg (Custody.mk _)
          (Option.filter_some_pos (decide_eq_true (hother sent hsent)))
    rw [if_neg hmatches, hkept]
    exact ⟨h, rfl⟩

theorem meets_handleTerminal (ticket : PowerTicket) (outcome : TicketOutcome) (h : state.Sound) :
    Meets coordinatorDiscipline (handleTerminal ticket outcome) state
      ((state.custody rest).receiveTerminal ticket) fun _ after custody =>
        after.Sound ∧ custody = after.custody rest := by
  rw [handleTerminal, meets_bind, meets_get]
  generalize failedContractOwnerForTerminal state.inflight ticket state.inflightRefresh
    state.inflightIdle outcome = failedOwner
  cases failedOwner with
  | none =>
    refine (meets_dispatchPowerTerminal ticket outcome h).bind ?_
    rintro _ after custody ⟨hsound, rfl⟩
    exact meets_retryDeferredPowerCommand hsound
  | some failedOwner =>
    refine (meets_collectBacklog failedOwner _ _).bind ?_
    rintro backlog after custody ⟨rfl, hbacklog, rfl⟩
    have hcustody : (⟨after.tickets + rest + backlogTickets backlog,
        (after.inflight.map Prod.snd).filter (· ≠ ticket)⟩ : Custody) =
        (after.custody (backlogTickets backlog + rest)).receiveTerminal ticket := by
      rw [← custody_add]
      rfl
    rw [custody, hcustody]
    refine (meets_dispatchPowerTerminal ticket outcome h).bind ?_
    rintro _ after custody ⟨hsound, rfl⟩
    refine (meets_settleFailedOwnerBacklog hsound hbacklog).bind ?_
    rintro _ after custody ⟨hsound, rfl⟩
    exact meets_retryDeferredPowerCommand hsound

end Coordinator

end FluxPurr.Power
