import FluxPurr.Power.Custody

/-!
# The cancellation of tickets

The clients, the coordinator and the PD service as one system, in which every step is an
atomic operation of one of them.  A client takes a number for its ticket and only then
enqueues its command.  The coordinator runs its `Program` one effect at a time.  The PD
service selects a command, asks whether it is cancelled, and ends it with a terminal.

What is cancelled is known by a single watermark: the highest number of a cancelled
ticket.  The system also records, for the proofs, the tickets that were cancelled, those
that the service took for cancelled, and the coordinator's custody.

As long as the coordinator sends only commands with numbers above those of all tickets
that were cancelled before (`SendsAhead`), the service takes only cancelled tickets for
cancelled (`dropsOnlyCancelled_of_run`).
-/

namespace FluxPurr.Power

open FluxPurr.Runs

/-! ## The watermark -/

/-- The compare-and-exchange loop of `cancel_pd_service_ticket`; the coordinator alone
writes the watermark. -/
def cancelPdServiceTicket (cancelledTicket : UInt32) (ticket : PowerTicket) : UInt32 :=
  if cancelledTicket < ticket.sequence then ticket.sequence else cancelledTicket

def takePdServiceTicketCancelled (cancelledTicket : UInt32) (ticket : PowerTicket) : Bool :=
  ticket.sequence ≤ cancelledTicket

/-! ## The system -/

/-- How far `process_pd_service_work` has got in this turn. -/
inductive PdServiceWork where
  | idle
  | selected (command : Option PdServiceCommand)
  | settling
  | finished (ticket : PowerTicket) (outcome : TicketOutcome)

structure PowerSystem where
  /-- `NEXT_TICKET`. -/
  nextTicket : UInt32 := 1
  /-- The tickets whose command is not enqueued yet. -/
  numbered : List PowerTicket := []
  /-- `POWER_COMMANDS`. -/
  powerCommands : List PowerCommand := []
  /-- What the coordinator still has to do, and its state afterwards. -/
  program : Program PowerEffect PowerEffect.Answer (Unit × PowerCoordinatorState) := .done ((), {})
  /-- `PD_SERVICE_COMMANDS`. -/
  pdServiceCommand : Option PdServiceCommand := none
  pending : Option PowerTicket := none
  work : PdServiceWork := .idle
  /-- `PD_SERVICE_TERMINALS`. -/
  terminals : List (PowerTicket × TicketOutcome) := []
  /-- `PD_SERVICE_CANCELLED_TICKET`. -/
  cancelledTicket : UInt32 := 0
  custody : Custody := { held := 0, sent := none }
  cancelled : List PowerTicket := []
  reported : List PowerTicket := []

inductive Party where
  | client
  | coordinator
  | pdService
deriving DecidableEq, Repr

namespace PowerSystem

/-- A client may get any slot. -/
inductive ClientStep (system : PowerSystem) : PowerSystem → Prop
  | nextTicket (owner : Option PowerIntentOwner) (resultSlot : ℕ) :
      ClientStep system
        { system with
          nextTicket := system.nextTicket + 1
          numbered := { owner, sequence := system.nextTicket, resultSlot } :: system.numbered }
  | enqueue {command : PowerCommand} (hnumbered : command.ticket ∈ system.numbered)
      (hadmitted : command.IsAdmitted)
      (hroom : system.powerCommands.length < powerCommandsCapacity) :
      ClientStep system
        { system with
          numbered := system.numbered.erase command.ticket
          powerCommands := system.powerCommands ++ [command] }
  | abandon {ticket : PowerTicket} (hnumbered : ticket ∈ system.numbered) :
      ClientStep system { system with numbered := system.numbered.erase ticket }

/-- What an effect of the coordinator does to the rest of the system. -/
inductive Answers (system : PowerSystem) :
    (effect : PowerEffect) → effect.Answer → PowerSystem → Prop
  | readPreparation (active : Bool) : Answers system .readPreparation active system
  | receiveCommand {command : PowerCommand} {rest : List PowerCommand}
      (hqueue : system.powerCommands = command :: rest) :
      Answers system .receiveCommand (some command) { system with powerCommands := rest }
  | receiveNothing (hqueue : system.powerCommands = []) :
      Answers system .receiveCommand none system
  | sendPdCommand (command : PdServiceCommand) (hroom : system.pdServiceCommand = none) :
      Answers system (.sendPdCommand command) true { system with pdServiceCommand := some command }
  | mailboxFull {command other : PdServiceCommand} (hfull : system.pdServiceCommand = some other) :
      Answers system (.sendPdCommand command) false system
  | cancelPdServiceTicket (ticket : PowerTicket) :
      Answers system (.cancelPdServiceTicket ticket) ()
        { system with
          cancelledTicket := Power.cancelPdServiceTicket system.cancelledTicket ticket
          cancelled := ticket :: system.cancelled }
  | signalTicket (moment : Moment) (ticket : PowerTicket) (outcome : TicketOutcome) :
      Answers system (.signalTicket moment ticket outcome) () system

inductive CoordinatorStep (system : PowerSystem) : PowerSystem → Prop
  | receiveCommand {state : PowerCoordinatorState} {command : PowerCommand}
      {rest : List PowerCommand} (hidle : system.program = .done ((), state))
      (hqueue : system.powerCommands = command :: rest) :
      CoordinatorStep system
        { system with
          powerCommands := rest
          program := (Coordinator.handleCommand command).run state
          custody := { system.custody with held := command.ticket ::ₘ system.custody.held } }
  | receiveTerminal {state : PowerCoordinatorState} {ticket : PowerTicket}
      {outcome : TicketOutcome} {rest : List (PowerTicket × TicketOutcome)}
      (hidle : system.program = .done ((), state))
      (hterminals : system.terminals = (ticket, outcome) :: rest) :
      CoordinatorStep system
        { system with
          terminals := rest
          program := (Coordinator.handleTerminal ticket outcome).run state
          custody := system.custody.receiveTerminal ticket }
  | perform {effect : PowerEffect} {answer : effect.Answer} {after : PowerSystem}
      {next : effect.Answer → Program PowerEffect PowerEffect.Answer (Unit × PowerCoordinatorState)}
      (hprogram : system.program = .step effect next)
      (hanswers : system.Answers effect answer after) :
      CoordinatorStep system
        { after with
          program := next answer
          custody := system.custody.after effect answer }

/-- `process_pd_service_work` and the publication of its terminal.  The preparation of a
flash and the progress of an operation are left open. -/
inductive PdServiceStep (system : PowerSystem) : PowerSystem → Prop
  | select (hidle : system.work = .idle) :
      PdServiceStep system
        { system with
          pdServiceCommand := none
          work := .selected system.pdServiceCommand }
  | rejectForPreparation {command : PdServiceCommand}
      (hselected : system.work = .selected (some command)) :
      PdServiceStep system { system with work := .finished command.ticket .rejected }
  | dropCommand {command : PdServiceCommand} (hselected : system.work = .selected (some command))
      (hcancelled : takePdServiceTicketCancelled system.cancelledTicket command.ticket) :
      PdServiceStep system
        { system with
          pending := system.pending.filter (· ≠ command.ticket)
          work := .finished command.ticket .superseded
          reported := command.ticket :: system.reported }
  | startCommand {command : PdServiceCommand}
      (hselected : system.work = .selected (some command))
      (hlive : takePdServiceTicketCancelled system.cancelledTicket command.ticket = false) :
      PdServiceStep system { system with pending := some command.ticket, work := .settling }
  | finishCommand {command : PdServiceCommand} (outcome : TicketOutcome)
      (hselected : system.work = .selected (some command))
      (hlive : takePdServiceTicketCancelled system.cancelledTicket command.ticket = false) :
      PdServiceStep system
        { system with pending := none, work := .finished command.ticket outcome }
  | dropPending {ticket : PowerTicket} (hselected : system.work = .selected none)
      (hpending : system.pending = some ticket)
      (hcancelled : takePdServiceTicketCancelled system.cancelledTicket ticket) :
      PdServiceStep system
        { system with
          pending := none
          work := .finished ticket .superseded
          reported := ticket :: system.reported }
  | keepPending (hselected : system.work = .selected none)
      (hlive : ∀ ticket, system.pending = some ticket →
        takePdServiceTicketCancelled system.cancelledTicket ticket = false) :
      PdServiceStep system { system with work := .settling }
  /-- The pending operation is cleared only after its terminal is published; nothing reads
  it in between. -/
  | settlePending {ticket : PowerTicket} (outcome : TicketOutcome)
      (hsettling : system.work = .settling) (hpending : system.pending = some ticket) :
      PdServiceStep system { system with pending := none, work := .finished ticket outcome }
  | yieldTurn (hsettling : system.work = .settling) :
      PdServiceStep system { system with work := .idle }
  | publishTerminal {ticket : PowerTicket} {outcome : TicketOutcome}
      (hfinished : system.work = .finished ticket outcome)
      (hroom : system.terminals.length < powerCommandsCapacity) :
      PdServiceStep system
        { system with
          pending := system.pending.filter (· ≠ ticket)
          work := .idle
          terminals := system.terminals ++ [(ticket, outcome)] }

inductive Step (system : PowerSystem) : Party → PowerSystem → Prop
  | client {after : PowerSystem} (h : system.ClientStep after) : Step system .client after
  | coordinator {after : PowerSystem} (h : system.CoordinatorStep after) :
      Step system .coordinator after
  | pdService {after : PowerSystem} (h : system.PdServiceStep after) :
      Step system .pdService after

/-- A ticket that the PD service takes for cancelled has been cancelled, and is not the one
that the coordinator has sent and waits for. -/
def DropsOnlyCancelled (system : PowerSystem) : Prop :=
  ∀ ticket ∈ system.reported, ticket ∈ system.cancelled ∧ system.custody.sent ≠ some ticket

/-- If the coordinator sends a command next, the number of its ticket is above zero and
above those of all tickets cancelled so far. -/
def SendsAhead (system : PowerSystem) : Prop :=
  ∀ command next, system.program = .step (.sendPdCommand command) next →
    system.pdServiceCommand = none →
      0 < command.ticket.sequence ∧
        ∀ ticket ∈ system.cancelled, ticket.sequence < command.ticket.sequence

/-- A run from the start, with every step under the condition. -/
def Run (condition : PowerSystem → Prop) (parties : List Party) (system : PowerSystem) : Prop :=
  Reaches (fun before party after => condition before ∧ before.Step party after) {} parties system

end PowerSystem

/-! ## The invariant -/

def PdServiceWork.tickets : PdServiceWork → Multiset PowerTicket
  | selected (some command) => {command.ticket}
  | finished ticket _ => {ticket}
  | idle | selected none | settling => 0

namespace PowerSystem

/-- The tickets between their sending and the receipt of their terminal. -/
def pdTickets (system : PowerSystem) : Multiset PowerTicket :=
  (system.pdServiceCommand.toList.map PdServiceCommand.ticket : List PowerTicket) +
    ((system.pending.toList : Multiset PowerTicket) + system.work.tickets) +
    (system.terminals.map Prod.fst : List PowerTicket)

/-- The coordinator leaves a sound state and nothing but its custody behind. -/
def Settled (result : Unit × PowerCoordinatorState) (custody : Custody) : Prop :=
  result.2.Sound ∧ custody = result.2.custody 0

structure Invariant (system : PowerSystem) : Prop where
  follows : system.program.Follows coordinatorDiscipline Settled system.custody
  admitted : ∀ command ∈ system.powerCommands, command.IsAdmitted
  /-- What is on its way and not cancelled is what the coordinator waits for. -/
  outstanding : system.pdTickets.filter (· ∉ system.cancelled) ≤
    (system.custody.sent.toList : Multiset PowerTicket)
  ahead : ∀ sent, system.custody.sent = some sent →
    0 < sent.sequence ∧ ∀ ticket ∈ system.cancelled, ticket.sequence < sent.sequence
  watermark : ∀ sequence : UInt32, 0 < sequence →
    (∀ ticket ∈ system.cancelled, ticket.sequence < sequence) → system.cancelledTicket < sequence
  reported : ∀ ticket ∈ system.reported, ticket ∈ system.cancelled

variable {system after : PowerSystem} {party : Party}

theorem invariant_start : Invariant {} where
  follows := ⟨PowerCoordinatorState.sound_initial, rfl⟩
  admitted _ hcommand := nomatch hcommand
  outstanding := le_of_eq rfl
  ahead _ hsent := nomatch hsent
  watermark _ hpositive _ := hpositive
  reported _ hticket := nomatch hticket

namespace Invariant

theorem dropsOnlyCancelled (h : system.Invariant) : system.DropsOnlyCancelled := by
  intro ticket hticket
  have hcancelled := h.reported ticket hticket
  refine ⟨hcancelled, fun hsent => ?_⟩
  exact UInt32.lt_irrefl _ ((h.ahead ticket hsent).2 ticket hcancelled)

variable {ticket : PowerTicket}

theorem cancelled_of_covered (h : system.Invariant) (hticket : ticket ∈ system.pdTickets)
    (hcovered : takePdServiceTicketCancelled system.cancelledTicket ticket) :
    ticket ∈ system.cancelled := by
  by_contra hlive
  have hsent : ticket ∈ (system.custody.sent.toList : Multiset PowerTicket) :=
    Multiset.mem_of_le h.outstanding (Multiset.mem_filter.mpr ⟨hticket, hlive⟩)
  obtain ⟨hpositive, hahead⟩ := h.ahead ticket (by simpa using hsent)
  have hbelow := h.watermark ticket.sequence hpositive hahead
  have hcovered : ticket.sequence ≤ system.cancelledTicket := of_decide_eq_true hcovered
  exact UInt32.lt_irrefl _ (UInt32.lt_of_le_of_lt hcovered hbelow)

/-! ### Clients -/

theorem clientStep (h : system.Invariant) (hstep : system.ClientStep after) : after.Invariant := by
  cases hstep with
  | nextTicket owner resultSlot =>
    exact { h with }
  | enqueue hnumbered hadmitted hroom =>
    refine { h with admitted := ?_ }
    intro command hcommand
    rcases List.mem_append.mp hcommand with hbefore | hnew
    · exact h.admitted command hbefore
    · rw [List.mem_singleton.mp hnew]
      exact hadmitted
  | abandon hnumbered =>
    exact { h with }

/-! ### The PD service -/

theorem outstanding_mono (h : system.Invariant) (hle : after.pdTickets ≤ system.pdTickets)
    (hcancelled : after.cancelled = system.cancelled) :
    after.pdTickets.filter (· ∉ after.cancelled) ≤
      (system.custody.sent.toList : Multiset PowerTicket) := by
  rw [hcancelled]
  exact (Multiset.filter_le_filter _ hle).trans h.outstanding

theorem filter_toList_le (pending : Option PowerTicket) (ticket : PowerTicket) :
    ((pending.filter (· ≠ ticket)).toList : Multiset PowerTicket) ≤ pending.toList := by
  cases pending with
  | none => exact le_of_eq rfl
  | some pending =>
    rw [Option.filter_some]
    split_ifs
    · exact le_of_eq rfl
    · exact Multiset.zero_le _

theorem pdTickets_le_of_work (hcommand : after.pdServiceCommand = system.pdServiceCommand)
    (hterminals : after.terminals = system.terminals)
    (hwork : (after.pending.toList : Multiset PowerTicket) + after.work.tickets ≤
      system.pending.toList + system.work.tickets) :
    after.pdTickets ≤ system.pdTickets := by
  rw [pdTickets, pdTickets, hcommand, hterminals]
  exact add_le_add (add_le_add le_rfl hwork) le_rfl

theorem pdTickets_le (hstep : system.PdServiceStep after) : after.pdTickets ≤ system.pdTickets := by
  cases hstep with
  | select hidle =>
    refine le_of_eq ?_
    cases hcommand : system.pdServiceCommand with
    | none => simp [pdTickets, PdServiceWork.tickets, hidle, hcommand]
    | some command =>
      simp [pdTickets, PdServiceWork.tickets, hidle, hcommand, add_comm]
  | rejectForPreparation hselected =>
    exact pdTickets_le_of_work rfl rfl (by rw [hselected]; exact le_of_eq rfl)
  | dropCommand hselected hcancelled =>
    refine pdTickets_le_of_work rfl rfl ?_
    rw [hselected]
    exact add_le_add (filter_toList_le _ _) le_rfl
  | startCommand hselected hlive =>
    refine pdTickets_le_of_work rfl rfl ?_
    rw [hselected]
    exact le_of_eq_of_le (add_zero _) (Multiset.le_add_left _ _)
  | finishCommand outcome hselected hlive =>
    refine pdTickets_le_of_work rfl rfl ?_
    rw [hselected]
    exact le_of_eq_of_le (zero_add _) (Multiset.le_add_left _ _)
  | dropPending hselected hpending hcancelled =>
    refine pdTickets_le_of_work rfl rfl ?_
    rw [hselected, hpending]
    exact le_of_eq (add_comm 0 _)
  | keepPending hselected hlive =>
    exact pdTickets_le_of_work rfl rfl (by rw [hselected]; exact le_of_eq rfl)
  | settlePending outcome hsettling hpending =>
    refine pdTickets_le_of_work rfl rfl ?_
    rw [hsettling, hpending]
    exact le_of_eq (add_comm 0 _)
  | yieldTurn hsettling =>
    exact pdTickets_le_of_work rfl rfl (by rw [hsettling]; exact le_of_eq rfl)
  | @publishTerminal ticket outcome hfinished hroom =>
    have hpublished :
        ((system.terminals ++ [(ticket, outcome)]).map Prod.fst : Multiset PowerTicket) =
          {ticket} + (system.terminals.map Prod.fst : List PowerTicket) := by
      rw [List.map_append, ← Multiset.coe_add, add_comm]
      rfl
    rw [pdTickets, pdTickets, hfinished, hpublished,
      ← add_assoc _ ({ticket} : Multiset PowerTicket)]
    refine add_le_add ?_ le_rfl
    rw [PdServiceWork.tickets, PdServiceWork.tickets, add_zero,
      ← add_assoc _ _ ({ticket} : Multiset PowerTicket)]
    exact add_le_add (add_le_add le_rfl (filter_toList_le _ _)) le_rfl

theorem mem_pdTickets_of_work
    (h : ticket ∈ (system.pending.toList : Multiset PowerTicket) + system.work.tickets) :
    ticket ∈ system.pdTickets := by
  exact Multiset.mem_add.mpr (Or.inl (Multiset.mem_add.mpr (Or.inr h)))

theorem pdServiceStep (h : system.Invariant) (hstep : system.PdServiceStep after) :
    after.Invariant := by
  have hle := pdTickets_le hstep
  cases hstep with
  | dropCommand hselected hcancelled =>
    refine { h with outstanding := h.outstanding_mono hle rfl, reported := ?_ }
    intro ticket hticket
    rcases List.mem_cons.mp hticket with rfl | hbefore
    · refine h.cancelled_of_covered (mem_pdTickets_of_work ?_) hcancelled
      rw [hselected]
      exact Multiset.mem_add.mpr (Or.inr (Multiset.mem_singleton_self _))
    · exact h.reported ticket hbefore
  | dropPending hselected hpending hcancelled =>
    refine { h with outstanding := h.outstanding_mono hle rfl, reported := ?_ }
    intro ticket hticket
    rcases List.mem_cons.mp hticket with rfl | hbefore
    · refine h.cancelled_of_covered (mem_pdTickets_of_work ?_) hcancelled
      rw [hpending]
      exact Multiset.mem_add.mpr (Or.inl (Multiset.mem_singleton_self _))
    · exact h.reported ticket hbefore
  | select | rejectForPreparation | startCommand | finishCommand | keepPending | settlePending
  | yieldTurn | publishTerminal =>
    exact { h with outstanding := h.outstanding_mono hle rfl }

/-! ### The coordinator -/

variable {state : PowerCoordinatorState}

theorem settled_of_idle (h : system.Invariant) (hidle : system.program = .done ((), state)) :
    state.Sound ∧ system.custody = state.custody 0 := by
  have hfollows := h.follows
  rw [hidle] at hfollows
  exact hfollows

theorem receiveCommand (h : system.Invariant) {command : PowerCommand} {rest : List PowerCommand}
    (hidle : system.program = .done ((), state)) (hqueue : system.powerCommands = command :: rest) :
    Invariant
      { system with
        powerCommands := rest
        program := (Coordinator.handleCommand command).run state
        custody := { system.custody with held := command.ticket ::ₘ system.custody.held } } := by
  obtain ⟨hsound, hcustody⟩ := h.settled_of_idle hidle
  have hadmitted := h.admitted
  rw [hqueue] at hadmitted
  refine ⟨?_, fun other hother => hadmitted other (List.mem_cons_of_mem _ hother),
    h.outstanding, h.ahead, h.watermark, h.reported⟩
  have hreceived : (⟨command.ticket ::ₘ system.custody.held, system.custody.sent⟩ : Custody) =
      state.custody (command.ticket ::ₘ 0) := by
    rw [hcustody, PowerCoordinatorState.custody, PowerCoordinatorState.custody, Multiset.add_cons]
  simp only [hreceived]
  exact Coordinator.meets_handleCommand hsound (hadmitted command (List.mem_cons_self ..))

theorem eq_zero_of_singleton_add_le {others : Multiset PowerTicket}
    {sent : Option PowerTicket} (h : {ticket} + others ≤ (sent.toList : Multiset PowerTicket)) :
    others = 0 := by
  have hcard := Multiset.card_le_card h
  have hsingle : Multiset.card (sent.toList : Multiset PowerTicket) ≤ 1 := by
    cases sent with
    | none => exact Nat.zero_le _
    | some sent => exact Nat.le_refl _
  rw [Multiset.card_add, Multiset.card_singleton] at hcard
  exact Multiset.card_eq_zero.mp (by omega)

theorem receiveTerminal (h : system.Invariant)
    {outcome : TicketOutcome} {rest : List (PowerTicket × TicketOutcome)}
    (hidle : system.program = .done ((), state))
    (hterminals : system.terminals = (ticket, outcome) :: rest) :
    Invariant
      { system with
        terminals := rest
        program := (Coordinator.handleTerminal ticket outcome).run state
        custody := system.custody.receiveTerminal ticket } := by
  obtain ⟨hsound, hcustody⟩ := h.settled_of_idle hidle
  have hreceived : system.pdTickets =
      ticket ::ₘ ({ system with terminals := rest } : PowerSystem).pdTickets := by
    rw [pdTickets, hterminals, pdTickets, List.map_cons, ← Multiset.cons_coe, Multiset.add_cons]
  have houtstanding := h.outstanding
  rw [hreceived, Multiset.filter_cons] at houtstanding
  refine ⟨?_, h.admitted, ?_, ?_, h.watermark, h.reported⟩
  · rw [hcustody]
    exact Coordinator.meets_handleTerminal ticket outcome hsound
  · change _ ≤ ((system.custody.sent.filter (· ≠ ticket)).toList : Multiset PowerTicket)
    by_cases hcancelled : ticket ∈ system.cancelled
    · have hkept : system.custody.sent.filter (· ≠ ticket) = system.custody.sent := by
        cases hsent : system.custody.sent with
        | none => rfl
        | some sent =>
          refine Option.filter_some_pos (decide_eq_true ?_)
          rintro rfl
          exact UInt32.lt_irrefl _ ((h.ahead _ hsent).2 _ hcancelled)
      rw [if_neg (not_not_intro hcancelled), zero_add] at houtstanding
      rwa [hkept]
    · rw [if_pos hcancelled] at houtstanding
      exact (eq_zero_of_singleton_add_le houtstanding).le.trans (Multiset.zero_le _)
  · intro sent hsent
    exact h.ahead sent (Option.filter_eq_some_iff.mp hsent).1

theorem answers_of_admitted (h : system.Invariant) {effect : PowerEffect}
    {answer : effect.Answer} (hanswers : system.Answers effect answer after) :
    Custody.answers effect answer := by
  cases hanswers with
  | receiveCommand hqueue => exact h.admitted _ (by rw [hqueue]; exact List.mem_cons_self ..)
  | receiveNothing | readPreparation | sendPdCommand | mailboxFull | cancelPdServiceTicket
  | signalTicket => trivial

theorem perform (h : system.Invariant) (hahead : system.SendsAhead) {effect : PowerEffect}
    {answer : effect.Answer}
    {next : effect.Answer → Program PowerEffect PowerEffect.Answer (Unit × PowerCoordinatorState)}
    (hprogram : system.program = .step effect next)
    (hanswers : system.Answers effect answer after) :
    Invariant
      { after with
        program := next answer
        custody := system.custody.after effect answer } := by
  have hfollows := h.follows
  rw [hprogram] at hfollows
  obtain ⟨hallowed, hnext⟩ := hfollows
  replace hnext := hnext answer (h.answers_of_admitted hanswers)
  cases hanswers with
  | readPreparation active =>
    exact { h with follows := hnext }
  | receiveCommand hqueue =>
    refine { h with follows := hnext, admitted := ?_ }
    intro other hother
    exact h.admitted other (by rw [hqueue]; exact List.mem_cons_of_mem _ hother)
  | receiveNothing hqueue =>
    exact { h with follows := hnext }
  | sendPdCommand command hroom =>
    have hnothing : system.custody.sent = none := hallowed
    have hsent : PowerSystem.pdTickets { system with pdServiceCommand := some command } =
        {command.ticket} + system.pdTickets := by
      simp only [pdTickets, hroom, Option.toList, List.map_nil, List.map_cons,
        Multiset.coe_nil, Multiset.coe_singleton, zero_add, add_assoc]
    have houtstanding := h.outstanding
    rw [hnothing] at houtstanding
    refine ⟨hnext, h.admitted, ?_, ?_, h.watermark, h.reported⟩
    · change Multiset.filter (· ∉ system.cancelled)
        (PowerSystem.pdTickets { system with pdServiceCommand := some command }) ≤
        {command.ticket}
      rw [hsent, Multiset.filter_add]
      exact add_le_add (Multiset.filter_le _ _) houtstanding
    · rintro sent ⟨⟩
      exact hahead command next hprogram hroom
  | mailboxFull hfull =>
    exact { h with follows := hnext }
  | cancelPdServiceTicket ticket =>
    have hsent : system.custody.sent = some ticket := hallowed
    refine ⟨hnext, h.admitted, ?_, fun sent hnone => (nomatch hnone), ?_, ?_⟩
    · refine le_of_eq (Multiset.filter_eq_nil.mpr fun other hother hlive => ?_)
      have hother : other ∈ (system.custody.sent.toList : Multiset PowerTicket) :=
        Multiset.mem_of_le h.outstanding (Multiset.mem_filter.mpr
          ⟨hother, fun hcancelled => hlive (List.mem_cons_of_mem _ hcancelled)⟩)
      rw [hsent] at hother
      obtain rfl : other = ticket := by simpa using hother
      exact hlive (List.mem_cons_self ..)
    · intro sequence hpositive habove
      have hbefore := h.watermark sequence hpositive
        fun other hother => habove other (List.mem_cons_of_mem _ hother)
      change Power.cancelPdServiceTicket system.cancelledTicket ticket < sequence
      rw [Power.cancelPdServiceTicket]
      split_ifs
      · exact habove ticket (List.mem_cons_self ..)
      · exact hbefore
    · intro other hother
      exact List.mem_cons_of_mem _ (h.reported other hother)
  | signalTicket moment ticket outcome =>
    exact { h with follows := hnext }

theorem coordinatorStep (h : system.Invariant) (hahead : system.SendsAhead)
    (hstep : system.CoordinatorStep after) : after.Invariant := by
  cases hstep with
  | receiveCommand hidle hqueue => exact h.receiveCommand hidle hqueue
  | receiveTerminal hidle hterminals => exact h.receiveTerminal hidle hterminals
  | perform hprogram hanswers => exact h.perform hahead hprogram hanswers

end Invariant

theorem invariant_of_run {parties : List Party} (h : Run SendsAhead parties system) :
    system.Invariant := by
  refine Reaches.invariant invariant_start ?_ h
  rintro before party after hbefore ⟨hahead, hstep⟩
  cases hstep with
  | client hstep => exact hbefore.clientStep hstep
  | coordinator hstep => exact hbefore.coordinatorStep hahead hstep
  | pdService hstep => exact hbefore.pdServiceStep hstep

/-- As long as the coordinator sends ahead of what was cancelled, the PD service takes only
cancelled tickets for cancelled. -/
theorem dropsOnlyCancelled_of_run {parties : List Party} (h : Run SendsAhead parties system) :
    system.DropsOnlyCancelled :=
  (invariant_of_run h).dropsOnlyCancelled

/-! ## Two superseded requests -/

theorem Run.step {condition : PowerSystem → Prop} {parties : List Party}
    (h : Run condition parties system) (hcondition : condition system)
    (hstep : system.Step party after) : Run condition (parties ++ [party]) after :=
  Reaches.step h ⟨hcondition, hstep⟩

def contractRequest (voltageMv : ℕ) : Pd.PdContractRequest where
  mode := .fixed
  voltageMv := voltageMv
  operatingCurrentMa := 3000
  calibration := false
  ppsRange := none

def automaticRequest (sequence : UInt32) : PowerCommand :=
  .request .automaticThermal (contractRequest 12000) ⟨some .automaticThermal, sequence, 0⟩

def operatorRequest (sequence : UInt32) : PowerCommand :=
  .request .manualOperator (contractRequest 20000) ⟨some .manualOperator, sequence, 1⟩

/-- The automatic request is in the mailbox when the operator's supersedes it. -/
theorem run_in_order :
    ∃ parties system, Run SendsAhead parties system ∧
      (automaticRequest 1).ticket ∈ system.reported := by
  have h : Run SendsAhead [] {} := .refl
  replace h := h.step (fun _ _ hnext => nomatch hnext)
    (.client (.nextTicket (some .automaticThermal) 0))
  replace h := h.step (fun _ _ hnext => nomatch hnext)
    (.client (@ClientStep.enqueue _ (automaticRequest 1) (by decide) rfl (by decide)))
  replace h := h.step (fun _ _ hnext => nomatch hnext)
    (.coordinator (.receiveCommand rfl rfl))
  replace h := h.step (fun _ _ hnext => nomatch hnext)
    (.coordinator (.perform rfl (.readPreparation false)))
  replace h := h.step (by rintro _ _ ⟨⟩ _; decide)
    (.coordinator (.perform rfl (.sendPdCommand _ rfl)))
  replace h := h.step (fun _ _ hnext => nomatch hnext)
    (.client (.nextTicket (some .manualOperator) 1))
  replace h := h.step (fun _ _ hnext => nomatch hnext)
    (.client (@ClientStep.enqueue _ (operatorRequest 2) (by decide) rfl (by decide)))
  replace h := h.step (fun _ _ hnext => nomatch hnext)
    (.coordinator (.receiveCommand rfl rfl))
  replace h := h.step (fun _ _ hnext => nomatch hnext)
    (.coordinator (.perform rfl (.readPreparation false)))
  replace h := h.step (fun _ _ hnext => nomatch hnext)
    (.coordinator (.perform rfl (.cancelPdServiceTicket _)))
  replace h := h.step (fun _ _ hnext => nomatch hnext) (.pdService (.select rfl))
  replace h := h.step (fun _ _ hnext => nomatch hnext) (.pdService (.dropCommand rfl rfl))
  exact ⟨_, _, h, List.mem_cons_self ..⟩

/-- Only the automatic request was cancelled. -/
theorem run_in_order_drops_cancelled :
    ∃ parties system, Run SendsAhead parties system ∧ system.DropsOnlyCancelled ∧
      (automaticRequest 1).ticket ∈ system.reported :=
  let ⟨parties, system, hrun, hreported⟩ := run_in_order
  ⟨parties, system, hrun, dropsOnlyCancelled_of_run hrun, hreported⟩

/-- The operator's request has the lower number, but is enqueued last: it supersedes the
automatic request, and is then dropped for it. -/
theorem run_out_of_order :
    ∃ parties system, Run (fun _ => True) parties system ∧
      (operatorRequest 1).ticket ∈ system.reported ∧
        (operatorRequest 1).ticket ∉ system.cancelled := by
  have h : Run (fun _ => True) [] {} := .refl
  replace h := h.step trivial (.client (.nextTicket (some .manualOperator) 1))
  replace h := h.step trivial (.client (.nextTicket (some .automaticThermal) 0))
  replace h := h.step trivial
    (.client (@ClientStep.enqueue _ (automaticRequest 2) (by decide) rfl (by decide)))
  replace h := h.step trivial (.coordinator (.receiveCommand rfl rfl))
  replace h := h.step trivial (.coordinator (.perform rfl (.readPreparation false)))
  replace h := h.step trivial (.coordinator (.perform rfl (.sendPdCommand _ rfl)))
  replace h := h.step trivial (.pdService (.select rfl))
  replace h := h.step trivial (.pdService (.startCommand rfl rfl))
  replace h := h.step trivial (.pdService (.yieldTurn rfl))
  replace h := h.step trivial
    (.client (@ClientStep.enqueue _ (operatorRequest 1) (by decide) rfl (by decide)))
  replace h := h.step trivial (.coordinator (.receiveCommand rfl rfl))
  replace h := h.step trivial (.coordinator (.perform rfl (.readPreparation false)))
  replace h := h.step trivial (.coordinator (.perform rfl (.cancelPdServiceTicket _)))
  replace h := h.step trivial (.coordinator (.perform rfl (.signalTicket _ _ _)))
  replace h := h.step trivial (.coordinator (.perform rfl (.sendPdCommand _ rfl)))
  replace h := h.step trivial (.pdService (.select rfl))
  replace h := h.step trivial (.pdService (.dropCommand rfl rfl))
  exact ⟨_, _, h, List.mem_cons_self .., by decide⟩

theorem not_dropsOnlyCancelled_of_every_run :
    ¬ ∀ (parties : List Party) (system : PowerSystem), Run (fun _ => True) parties system →
      system.DropsOnlyCancelled := by
  intro h
  obtain ⟨parties, system, hrun, hreported, hlive⟩ := run_out_of_order
  exact hlive (h parties system hrun _ hreported).1

end PowerSystem

end FluxPurr.Power
