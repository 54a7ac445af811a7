import FluxPurr.Heater.TerminalDisarm

/-!
# Runs of the terminal disarm

A run is made of turns of `reconcileTerminalDisarmPower` and of what other code does to the
calibration and the manual request in between (`DisarmTurn`).  `ticketDiscipline` is how the
tickets of the port are to be handled: one at a time, and each is ended once.  A ticket that
is held was obtained by a turn that found the disarm set, and every turn since has found it
set and the ticket unanswered (`Requested`).
-/

namespace FluxPurr.Heater

open FluxPurr.Runs
open FluxPurr.Calibration (CalibrationRuntimeState ManualPpsState)
open FluxPurr.Pd (PdServiceSnapshot)
open FluxPurr.Power (PowerTicket TicketOutcome ConfirmedActiveContract)

namespace TerminalDisarm

/-! ## Tickets -/

def ticketAllows (outstanding : Option PowerTicket) : TerminalDisarmEffect → Prop
  | .snapshot => True
  | .restoreIdleContract _ => outstanding = none
  | .tryTakeTicket ticket | .discardTicket ticket => outstanding = some ticket

def ticketAfter (outstanding : Option PowerTicket) :
    (effect : TerminalDisarmEffect) → effect.Answer → Option PowerTicket
  | .restoreIdleContract _, .pending ticket => some ticket
  | .tryTakeTicket _, some _ | .discardTicket _, _ => none
  | .restoreIdleContract _, .confirmed | .restoreIdleContract _, .failed => outstanding
  | .tryTakeTicket _, none | .snapshot, _ => outstanding

/-- A ticket is obtained while none is outstanding, and polled and discarded only while it is
the outstanding one. -/
def ticketDiscipline :
    Discipline TerminalDisarmEffect TerminalDisarmEffect.Answer (Option PowerTicket) where
  Allows := ticketAllows
  Answers _ _ _ := True
  after := ticketAfter

variable (ticket : PowerTicket)

def obtains : PortCall → Bool
  | ⟨.restoreIdleContract _, answer⟩ => answer = .pending ticket
  | _ => false

/-- The call consumes or discards the ticket. -/
def ends : PortCall → Bool
  | ⟨.tryTakeTicket taken, answer⟩ => taken = ticket ∧ answer.isSome
  | ⟨.discardTicket discarded, _⟩ => discarded = ticket
  | _ => false

/-- One if the ticket is the outstanding one. -/
def heldCount (outstanding : Option PowerTicket) : ℕ := if outstanding = some ticket then 1 else 0

variable {outstanding : Option PowerTicket}

theorem heldCount_call {call : PortCall} (h : ticketAllows outstanding call.1) :
    (obtains ticket call).toNat + heldCount ticket outstanding =
      (ends ticket call).toNat + heldCount ticket (ticketAfter outstanding call.1 call.2) := by
  obtain ⟨effect, answer⟩ := call
  cases effect with
  | snapshot => rfl
  | restoreIdleContract coolingRequired =>
    obtain rfl : outstanding = none := h
    cases answer with
    | confirmed => rfl
    | failed => rfl
    | pending obtained =>
      by_cases hsame : obtained = ticket
      · subst hsame
        simp [obtains, ends, heldCount, ticketAfter]
      · simp [obtains, ends, heldCount, ticketAfter, hsame]
  | tryTakeTicket taken =>
    obtain rfl : outstanding = some taken := h
    cases answer with
    | none => simp [obtains, ends, heldCount, ticketAfter]
    | some outcome =>
      by_cases hsame : taken = ticket
      · subst hsame
        simp [obtains, ends, heldCount, ticketAfter]
      · simp [obtains, ends, heldCount, ticketAfter, hsame]
  | discardTicket discarded =>
    obtain rfl : outstanding = some discarded := h
    by_cases hsame : discarded = ticket
    · subst hsame
      simp [obtains, ends, heldCount, ticketAfter]
    · simp [obtains, ends, heldCount, ticketAfter, hsame]

/-- As often as a ticket is obtained, it is ended, or it is the one that is still held. -/
theorem countP_obtains {calls : List PortCall} (h : ticketDiscipline.AllowsAll outstanding calls) :
    calls.countP (obtains ticket) + heldCount ticket outstanding =
      calls.countP (ends ticket) +
        heldCount ticket (ticketDiscipline.afterAll outstanding calls) := by
  induction calls generalizing outstanding with
  | nil => rfl
  | cons call calls ih =>
    have hcall := heldCount_call ticket h.1
    have hrest := ih h.2
    have hcount : ∀ counted : Bool, (if counted = true then 1 else 0) = counted.toNat := by
      decide
    rw [List.countP_cons, List.countP_cons, hcount, hcount]
    calc calls.countP (obtains ticket) + (obtains ticket call).toNat +
          heldCount ticket outstanding
        = calls.countP (obtains ticket) + ((ends ticket call).toNat +
            heldCount ticket (ticketAfter outstanding call.1 call.2)) := by
          rw [Nat.add_assoc, hcall]
      _ = (calls.countP (obtains ticket) +
            heldCount ticket (ticketAfter outstanding call.1 call.2)) +
            (ends ticket call).toNat := by omega
      _ = calls.countP (ends ticket) + (ends ticket call).toNat +
            heldCount ticket (ticketDiscipline.afterAll outstanding (call :: calls)) := by
          change _ + heldCount ticket (ticketDiscipline.after outstanding call.1 call.2) + _ = _
          rw [hrest, Nat.add_right_comm]
          rfl

theorem Reconciles.tickets {preparationActive coolingRequired released : Bool}
    {disarm after : TerminalDisarm} {calls : List PortCall}
    (h : Reconciles preparationActive coolingRequired disarm calls released after) :
    ticketDiscipline.AllowsAll disarm.pendingTicket calls ∧
      ticketDiscipline.afterAll disarm.pendingTicket calls = after.pendingTicket := by
  cases h with
  | nothingPending => exact ⟨trivial, rfl⟩
  | discarded hpending ticket hticket | unanswered hpending ticket hticket
  | refused hpending ticket hticket outcome | asked hpending hticket ticket
  | failed hpending hticket => exact ⟨⟨hticket, trivial⟩, rfl⟩
  | unsettled hpending confirmation hproves snapshot
  | released hpending confirmation hproves snapshot hsettled =>
    generalize disarm.pendingTicket = outstanding at hproves
    cases hproves with
    | now => exact ⟨⟨rfl, trivial, trivial⟩, rfl⟩
    | ticket ticket contract => exact ⟨⟨rfl, trivial, trivial⟩, rfl⟩

/-! ## Turns -/

inductive DisarmTurn where
  /-- Other code writes the calibration and the manual request. -/
  | interfere (calibration : CalibrationRuntimeState) (manualPps : ManualPpsState)
  | reconcile (preparationActive coolingRequired : Bool) (calls : List PortCall)
      (released : Bool)

def DisarmTurn.calls : DisarmTurn → List PortCall
  | interfere _ _ => []
  | reconcile _ _ calls _ => calls

/-- Other code leaves no disarm set. -/
def DisarmTurn.Withdraws : DisarmTurn → Prop
  | interfere calibration _ => calibration.immediateHeaterDisarmPending = false
  | reconcile _ _ _ _ => False

inductive Step (disarm : TerminalDisarm) : DisarmTurn → TerminalDisarm → Prop
  | interfere (calibration : CalibrationRuntimeState) (manualPps : ManualPpsState) :
      Step disarm (.interfere calibration manualPps)
        { disarm with calibration := calibration, manualPps := manualPps }
  | reconcile {preparationActive coolingRequired released : Bool} {calls : List PortCall}
      {after : TerminalDisarm}
      (hperforms : ((reconcileTerminalDisarmPower preparationActive coolingRequired).run
        disarm).Performs calls (released, after)) :
      Step disarm (.reconcile preparationActive coolingRequired calls released) after

/-- What the port has seen. -/
def portCalls (turns : List DisarmTurn) : List PortCall := turns.flatMap DisarmTurn.calls

/-! ## The request of a disarm -/

/-- The ticket stays unanswered, and every turn finds the disarm set. -/
def Awaits (disarm : TerminalDisarm) (turn : DisarmTurn) (after : TerminalDisarm) : Prop :=
  disarm.Step turn after ∧
    match turn with
    | .interfere _ _ => True
    | .reconcile _ _ calls _ => disarm.isPending = true ∧ calls = [⟨.tryTakeTicket ticket, none⟩]

/-- The same, and the disarm is set before and after. -/
def AwaitsArmed (disarm : TerminalDisarm) (turn : DisarmTurn) (after : TerminalDisarm) : Prop :=
  Awaits ticket disarm turn after ∧ disarm.isPending = true ∧ after.isPending = true

/-- A turn that found the disarm set has asked for the idle contract and got the ticket.  Unless
other code has withdrawn the disarm since then, it has been set all the time. -/
def Requested (start : TerminalDisarm) (turns : List DisarmTurn) (disarm : TerminalDisarm)
    (ticket : PowerTicket) : Prop :=
  ∃ front preparationActive coolingRequired between asking asked,
    turns = front ++ .reconcile preparationActive coolingRequired
      [⟨.restoreIdleContract coolingRequired, .pending ticket⟩] false :: between ∧
    Reaches Step start front asking ∧ asking.isPending = true ∧
    asking.Step (.reconcile preparationActive coolingRequired
      [⟨.restoreIdleContract coolingRequired, .pending ticket⟩] false) asked ∧
    asked.isPending = true ∧ Reaches (Awaits ticket) asked between disarm ∧
    ((∀ turn ∈ between, ¬turn.Withdraws) → Reaches (AwaitsArmed ticket) asked between disarm)

/-- The contract of the snapshot is fixed, and no other one is on its way. -/
structure SettledFixed (snapshot : PdServiceSnapshot) : Prop where
  notTransitioning : snapshot.transitionPending = false
  fixed : ∃ observation, snapshot.observation = some observation ∧
    observation.contract.kind = .fixed

/-- Every ticket that was obtained was ended once, but for the one that is outstanding. -/
structure TicketsAccounted (calls : List PortCall) (outstanding : Option PowerTicket) :
    Prop where
  oneAtATime : ticketDiscipline.AllowsAll none calls
  endedOnce : ∀ ticket, calls.countP (obtains ticket) =
    calls.countP (ends ticket) + heldCount ticket outstanding

/-- The turn has released the disarm because its idle request is confirmed, by the port at once
or by the ticket of the request, and the snapshot shows a settled fixed contract. -/
def ReleasedOnProof (start : TerminalDisarm) (turns : List DisarmTurn) (disarm : TerminalDisarm)
    (turn : DisarmTurn) : Prop :=
  ∃ preparationActive coolingRequired confirmation snapshot,
    turn = .reconcile preparationActive coolingRequired
      [confirmation, ⟨.snapshot, snapshot⟩] true ∧
    SettledFixed snapshot ∧
    (confirmation = ⟨.restoreIdleContract coolingRequired, .confirmed⟩ ∨
      ∃ ticket contract, confirmation = ⟨.tryTakeTicket ticket, some (.confirmed contract)⟩ ∧
        Requested start turns disarm ticket)

theorem settledFixed_of_confirmed {snapshot : PdServiceSnapshot}
    (h : terminalIdleContractConfirmed snapshot.settledObservation = true) :
    SettledFixed snapshot := by
  obtain ⟨observation, hobservation, hconfirmed⟩ := (Option.any_eq_true _ _).mp h
  unfold PdServiceSnapshot.settledObservation at hobservation
  split_ifs at hobservation with htransition
  exact ⟨eq_false_of_ne_true htransition, observation, hobservation,
    (of_decide_eq_true hconfirmed).1⟩

variable {turns : List DisarmTurn}

theorem isPending_of_awaitsArmed {ticket : PowerTicket} {asked disarm : TerminalDisarm}
    (hasked : asked.isPending = true)
    (h : Reaches (AwaitsArmed ticket) asked turns disarm) : disarm.isPending = true := by
  cases h with
  | refl => exact hasked
  | step _ hlast => exact hlast.2.2

/-- A ticket that is still held after a turn was requested before it or in it. -/
theorem Requested.step {start disarm after : TerminalDisarm} {turns : List DisarmTurn}
    {turn : DisarmTurn} {ticket : PowerTicket} (h : Requested start turns disarm ticket)
    (hstep : Awaits ticket disarm turn after)
    (harmed : disarm.isPending = true → ¬turn.Withdraws → after.isPending = true) :
    Requested start (turns ++ [turn]) after ticket := by
  obtain ⟨front, preparationActive, coolingRequired, between, asking, asked, rfl, hfront, hasking,
    hask, hasked, hawaits, hset⟩ := h
  refine ⟨front, preparationActive, coolingRequired, between ++ [turn], asking, asked, by simp,
    hfront, hasking, hask, hasked, hawaits.step hstep, ?_⟩
  intro hnever
  have hbetween : ∀ turn ∈ between, ¬turn.Withdraws := fun turn hturn =>
    hnever turn (List.mem_append_left _ hturn)
  have hpending := isPending_of_awaitsArmed hasked (hset hbetween)
  have hlast := hnever turn (List.mem_append_right _ List.mem_cons_self)
  exact (hset hbetween).step ⟨hstep, hpending, harmed hpending hlast⟩

variable {start disarm : TerminalDisarm}

theorem requested_of_reaches
    (hstart : start.pendingTicket = none) (hrun : Reaches Step start turns disarm)
    (ticket : PowerTicket) (hticket : disarm.pendingTicket = some ticket) :
    Requested start turns disarm ticket := by
  induction hrun with
  | refl =>
    rw [hstart] at hticket
    cases hticket
  | @step turns disarm after turn hrun hstep ih =>
    cases hstep with
    | interfere calibration manualPps =>
      refine (ih hticket).step ⟨.interfere calibration manualPps, trivial⟩ ?_
      exact fun _ hset => eq_true_of_ne_false hset
    | @reconcile preparationActive coolingRequired released calls _ hperforms =>
      have hreconciles := reconciles_of_performs hperforms
      cases hreconciles with
      | nothingPending hpending hnone =>
        rw [hnone] at hticket
        cases hticket
      | discarded => cases hticket
      | unanswered hpending held hheld =>
        obtain rfl := Option.some.inj (hheld.symm.trans hticket)
        exact (ih hticket).step ⟨.reconcile hperforms, hpending, rfl⟩ fun _ _ => hpending
      | refused => cases hticket
      | asked hpending hnone obtained =>
        obtain rfl := Option.some.inj hticket
        exact ⟨turns, preparationActive, coolingRequired, [], disarm, _, rfl, hrun, hpending,
          .reconcile hperforms, hpending, .refl, fun _ => .refl⟩
      | failed hpending hnone =>
        rw [hnone] at hticket
        cases hticket
      | unsettled => cases hticket
      | released => cases hticket

theorem tickets_of_reaches
    (hstart : start.pendingTicket = none) (hrun : Reaches Step start turns disarm) :
    ticketDiscipline.AllowsAll none (portCalls turns) ∧
      ticketDiscipline.afterAll none (portCalls turns) = disarm.pendingTicket := by
  induction hrun with
  | refl => exact ⟨trivial, hstart.symm⟩
  | @step turns disarm after turn hrun hstep ih =>
    have hcalls : portCalls (turns ++ [turn]) = portCalls turns ++ turn.calls := by
      simp [portCalls]
    rw [hcalls, Discipline.allowsAll_append, Discipline.afterAll_append, ih.2]
    cases hstep with
    | interfere calibration manualPps => exact ⟨⟨ih.1, trivial⟩, rfl⟩
    | reconcile hperforms =>
      obtain ⟨hallows, hafter⟩ := (reconciles_of_performs hperforms).tickets
      exact ⟨⟨ih.1, hallows⟩, hafter⟩

/-- In every run with any port, the tickets are accounted for, and a turn that clears the disarm
does so on a proof of its own. -/
theorem terminalDisarm_released_on_proof {calibration : CalibrationRuntimeState}
    {manualPps : ManualPpsState} {turns : List DisarmTurn} {disarm : TerminalDisarm}
    (hrun : Reaches Step ⟨calibration, manualPps, none⟩ turns disarm) :
    TicketsAccounted (portCalls turns) disarm.pendingTicket ∧
      ∀ preparationActive coolingRequired calls released after,
        disarm.Step (.reconcile preparationActive coolingRequired calls released) after →
          disarm.isPending = true → after.isPending = false →
            ReleasedOnProof ⟨calibration, manualPps, none⟩ turns disarm
              (.reconcile preparationActive coolingRequired calls released) := by
  obtain ⟨hallows, hafter⟩ := tickets_of_reaches rfl hrun
  refine ⟨⟨hallows, fun ticket => ?_⟩, ?_⟩
  · have hcount := countP_obtains ticket hallows
    rw [hafter] at hcount
    exact hcount
  · intro preparationActive coolingRequired calls released after hstep hpending hreleased
    cases hstep with
    | reconcile hperforms =>
        cases reconciles_of_performs hperforms with
        | released _ confirmation hproves snapshot hsettled =>
            refine ⟨preparationActive, coolingRequired, confirmation, snapshot, rfl,
              settledFixed_of_confirmed hsettled, ?_⟩
            rcases Option.eq_none_or_eq_some disarm.pendingTicket with hnone | ⟨ticket, hticket⟩
            · rw [hnone] at hproves
              cases hproves
              exact .inl rfl
            · rw [hticket] at hproves
              cases hproves with
              | ticket _ contract =>
                  exact .inr ⟨ticket, contract, rfl, requested_of_reaches rfl hrun ticket hticket⟩
        | nothingPending hnot =>
            rw [hpending] at hnot
            cases hnot
        | discarded hnot =>
            rw [hpending] at hnot
            cases hnot
        | _ =>
            have hset : disarm.isPending = false := hreleased
            rw [hpending] at hset
            cases hset

def disarmedCalibration : CalibrationRuntimeState where
  immediateHeaterDisarmPending := true
  thermalPlantCompletionDisarmPending := true

def idleTicket : PowerTicket where
  owner := none
  sequence := 1
  resultSlot := 0

/-- The idle contract is asked for, the disarm is set again, and the ticket is polled. -/
def rearmedTurns : List DisarmTurn :=
  [.reconcile true false [⟨.restoreIdleContract false, .pending idleTicket⟩] false,
    .interfere disarmedCalibration (.fromFusb302bCapabilities none),
    .reconcile true false [⟨.tryTakeTicket idleTicket, none⟩] false]

def rearmedDisarm (pendingTicket : Option PowerTicket) : TerminalDisarm where
  calibration := disarmedCalibration
  manualPps := .fromFusb302bCapabilities none
  pendingTicket := pendingTicket

theorem reaches_rearmed :
    Reaches Step (rearmedDisarm none) rearmedTurns (rearmedDisarm (some idleTicket)) := by
  have hasked : (rearmedDisarm none).Step
      (.reconcile true false [⟨.restoreIdleContract false, .pending idleTicket⟩] false)
      (rearmedDisarm (some idleTicket)) := by
    refine .reconcile ?_
    rw [run_of_pending rfl]
    exact .step .done
  have hpolled : (rearmedDisarm (some idleTicket)).Step
      (.reconcile true false [⟨.tryTakeTicket idleTicket, none⟩] false)
      (rearmedDisarm (some idleTicket)) := by
    refine .reconcile ?_
    rw [run_of_pending rfl]
    exact .step .done
  exact ((Reaches.refl.step hasked).step (.interfere _ _)).step hpolled

/-- A contract of 5 V and 2 A. -/
def settledFiveVolts : PdServiceSnapshot where
  observation := some
    { statusRaw := 0x80
      status := Pd.fusb302bStatusProjection 0x80
      currentRaw := 0
      currentMa := 2000
      contractVoltageMv := some 5000
      contract := ⟨.fixed, 1, 5000, 2000⟩ }
  active := none
  transitionPending := false
  serviceAvailable := true
  publishedAtMs := 0

def fiveVoltContract : ConfirmedActiveContract where
  mode := .fixed
  voltageMv := 5000
  operatingCurrentMa := 2000
  ppsRange := none

/-- The ticket is confirmed on a settled contract, and the disarm is released. -/
theorem released_on_proof_rearmed : TicketsAccounted (portCalls rearmedTurns) (some idleTicket) ∧
      ReleasedOnProof (rearmedDisarm none) rearmedTurns (rearmedDisarm (some idleTicket))
        (.reconcile true false
          [⟨.tryTakeTicket idleTicket, some (.confirmed fiveVoltContract)⟩,
            ⟨.snapshot, settledFiveVolts⟩] true) := by
  obtain ⟨haccounted, hreleased⟩ := terminalDisarm_released_on_proof reaches_rearmed
  have hstep : (rearmedDisarm (some idleTicket)).Step
      (.reconcile true false
        [⟨.tryTakeTicket idleTicket, some (.confirmed fiveVoltContract)⟩,
          ⟨.snapshot, settledFiveVolts⟩] true)
      ((rearmedDisarm none).release true) := by
    refine .reconcile ?_
    rw [run_of_pending rfl]
    refine .step ?_
    exact .step .done
  exact ⟨haccounted, hreleased true false _ true _ hstep rfl rfl⟩

end TerminalDisarm

end FluxPurr.Heater
