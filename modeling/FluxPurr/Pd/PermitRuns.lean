import FluxPurr.Pd.ContractWithdrawal
import FluxPurr.Pd.HeaterPermit

/-!
# When the heater permit is granted

`PermitHistory` records a run of the service and of writes to the heater: the contract that
was last seen with VBUS present and what has been handled since, the turns that extended the
permit without such a sight, and the time until which the permit was granted.

Three steps break the rules of the permit, and `PermitHistory.Meets` excludes just these: the
rule of the previous contract applies although the capabilities do not cover the contract any
more, the bus stays busy for so long, and a duty is written so late after the permit has
expired that the comparison of the times wraps.
-/

namespace FluxPurr.Pd

open FluxPurr.Runs FluxPurr.Power
open FluxPurr.Usb (saturatingAddU64)

/-! ## The history of a run -/

/-- A contract that was seen with VBUS present, and what was handled since then. -/
structure Sighting where
  contract : Contract
  handled : List PollStep

/-- A step of a turn after which this contract is active. -/
def noteStep (contract : Contract) (sighting : Option Sighting) (step : PollStep) :
    Option Sighting :=
  if step.showsVbus then some ⟨contract, []⟩
  else sighting.map fun sighting => { sighting with handled := sighting.handled ++ [step] }

structure PermitHistory where
  service : PdService
  clockMs : ℕ
  /-- The end of the last turn with the bus. -/
  busAtMs : ℕ
  sighting : Option Sighting
  /-- The first of the turns that extend the permit without a sight of VBUS. -/
  unsampledSinceMs : Option ℕ
  /-- The end of the permit that was granted last, unless it was forced off. -/
  grantedUntilMs : Option ℕ

namespace PermitHistory

def starting (pwm : Option HeaterPwm) : PermitHistory where
  service := .starting pwm
  clockMs := 0
  busAtMs := 0
  sighting := none
  unsampledSinceMs := none
  grantedUntilMs := none

/-- A publication, in a turn that saw VBUS or not. -/
def publish (history : PermitHistory) (service : PdService) (publishedAtMs : ℕ)
    (observation : Option PdStatusObservation)
    (pending : Option (PowerTicket × PendingPdOperation)) (written showsVbus : Bool) :
    PermitHistory :=
  let grants := service.grants publishedAtMs observation pending
  { history with
    service := service.publishPdSnapshot publishedAtMs observation pending written
    clockMs := publishedAtMs
    unsampledSinceMs :=
      if grants ∧ ¬ showsVbus then some (history.unsampledSinceMs.getD publishedAtMs) else none
    grantedUntilMs :=
      if grants then some (saturatingAddU64 publishedAtMs pdSnapshotMaxAgeMs) else none }

/-- What a turn handles, in order. -/
def turnTrace (history : PermitHistory) (work : List (ℕ × RuntimeOperation)) (polledAtMs : ℕ)
    (transfers : PollTransfers) : List PollStep :=
  history.service.runtime.performTrace work ++
    (history.service.runtime.performAll work).pollTrace polledAtMs transfers

def step (history : PermitHistory) : ServiceAction → PermitHistory
  | .turn work polledAtMs transfers publishedAtMs pending written =>
      let trace := history.turnTrace work polledAtMs transfers
      let service := history.service.polled work polledAtMs transfers
      publish
        { history with
          busAtMs := publishedAtMs
          sighting :=
            trace.foldl (noteStep service.runtime.policy.activeContract) history.sighting }
        service publishedAtMs service.runtime.pdStatusObservation pending written
        (trace.any PollStep.showsVbus)
  | .busyTurn publishedAtMs pending written =>
      history.publish history.service publishedAtMs none pending written false
  | .dutyWrite nowMs duty written =>
      { history with
        service := history.service.step (.dutyWrite nowMs duty written)
        clockMs := nowMs }

end PermitHistory

/-! ## The rules -/

def ServiceAction.publishes : ServiceAction → Bool
  | .dutyWrite _ _ _ => false
  | _ => true

/-- The capabilities of the source cover the active contract. -/
def Fusb302bRuntime.Supported (runtime : Fusb302bRuntime) : Prop :=
  ∃ capabilities, runtime.policy.receivedCapabilities = some capabilities ∧
    capabilities.supportsContract runtime.policy.activeContract = true

/-- The contract was seen with VBUS present, and nothing was withdrawn since. -/
def PermitHistory.Sighted (history : PermitHistory) : Prop :=
  ∃ sighting, history.sighting = some sighting ∧
    sighting.contract = history.service.runtime.policy.activeContract ∧
    ∀ step ∈ sighting.handled, ¬ step.withdraws

/-- How long the permit may be extended without a sight of VBUS. -/
abbrev unsampledLimitMs : ℕ := fusb302bContractRequestTimeoutMs + pdSnapshotMaxAgeMs

/-- The rules of the permit for one action. -/
structure PermitSound (before : PermitHistory) (action : ServiceAction) (after : PermitHistory) :
    Prop where
  granted : action.publishes → after.service.gate.permit = true →
    after.service.runtime.Supported ∧ after.Sighted
  continued : action.publishes → ∀ sinceMs, after.unsampledSinceMs = some sinceMs →
    action.atMs - sinceMs ≤ unsampledLimitMs
  revoked : ∀ nowMs duty, action = .dutyWrite nowMs duty true →
    (∀ untilMs, before.grantedUntilMs = some untilMs → untilMs ≤ nowMs) →
    ∀ pwm, after.service.gate.pwm = some pwm → pwm.duty = 0

/-- Where the rule of the previous contract applies, the capabilities cover the contract. -/
def PdService.Covers (service : PdService) (nowMs : ℕ)
    (observation : Option PdStatusObservation) : Prop :=
  service.preservePreviousContract nowMs observation = true → service.runtime.Supported

namespace PermitHistory

/-- The conditions under which an action keeps the rules. -/
def Meets (history : PermitHistory) : ServiceAction → Prop
  | .turn work polledAtMs transfers publishedAtMs _ _ =>
      let service := history.service.polled work polledAtMs transfers
      service.Covers publishedAtMs service.runtime.pdStatusObservation
  | .busyTurn publishedAtMs pending _ =>
      history.service.Covers publishedAtMs none ∧
        (history.service.grants publishedAtMs none pending = true →
          publishedAtMs - history.busAtMs ≤ unsampledLimitMs)
  | .dutyWrite nowMs _ _ =>
      history.service.gate.permit = true → ∀ untilMs, history.grantedUntilMs = some untilMs →
        (nowMs - untilMs) % 2 ^ 32 < 2 ^ 31

/-- One action, no earlier than the one before. -/
def Step (before : PermitHistory) (action : ServiceAction) (after : PermitHistory) : Prop :=
  before.clockMs ≤ action.atMs ∧ after = before.step action

def Next (before : PermitHistory) (action : ServiceAction) (after : PermitHistory) : Prop :=
  before.Meets action ∧ before.Step action after

/-! ## The invariant -/

structure Invariant (history : PermitHistory) : Prop where
  consistent : Consistent history.service.runtime
  sighted : history.service.runtime.policy.activeContract ≠ .none → history.Sighted
  permit : history.service.gate.permit = true → ∃ untilMs,
    history.grantedUntilMs = some untilMs ∧ history.service.gate.expiresAtMs = UInt32.ofNat untilMs
  unsampled : ∀ sinceMs, history.unsampledSinceMs = some sinceMs → history.busAtMs ≤ sinceMs
  clock : history.busAtMs ≤ history.clockMs

variable {before after history : PermitHistory} {service : PdService} {action : ServiceAction}

theorem invariant_starting (pwm : Option HeaterPwm) : Invariant (starting pwm) where
  consistent := .new
  sighted h := absurd rfl h
  permit h := nomatch h
  unsampled _ h := nomatch h
  clock := le_refl 0

/-! ## The gate -/

variable {written : Bool} {observation : Option PdStatusObservation}
  {pending : Option (PowerTicket × PendingPdOperation)} {publishedAtMs : ℕ}
  {runtime : Fusb302bRuntime}

variable {gate : HeaterPwmGate}

theorem permit_setDutyCycle {duty nowMs : ℕ}
    (h : (gate.setDutyCycle duty nowMs written).permit = true) : gate.permit = true := by
  unfold HeaterPwmGate.setDutyCycle at h
  dsimp only at h
  by_cases hactive : gate.heaterPermitIsActive nowMs = true
  · exact (of_decide_eq_true hactive).1
  · rw [if_neg hactive] at h
    split at h
    · cases h
    · split_ifs at h

theorem duty_setDutyCycle {duty nowMs : ℕ} {pwm : HeaterPwm}
    (hactive : gate.heaterPermitIsActive nowMs = false)
    (h : (gate.setDutyCycle duty nowMs true).pwm = some pwm) : pwm.duty = 0 := by
  unfold HeaterPwmGate.setDutyCycle at h
  simp only [hactive, Bool.false_eq_true, if_false, not_true_eq_false] at h
  split at h
  · rename_i hnone
    rw [hnone] at h
    cases h
  · cases h
    rfl

/-- The permit is over from its end on, for as long as the times can be compared. -/
theorem heaterPermitIsActive_of_over {untilMs nowMs : ℕ}
    (hexpires : gate.expiresAtMs = UInt32.ofNat untilMs) (hover : untilMs ≤ nowMs)
    (hcompares : (nowMs - untilMs) % 2 ^ 32 < 2 ^ 31) :
    gate.heaterPermitIsActive nowMs = false := by
  refine decide_eq_false fun ⟨_, hnegative⟩ => ?_
  rw [hexpires, UInt32.toNat_sub, UInt32.toNat_ofNat', UInt32.toNat_ofNat'] at hnegative
  have hmod : (2 ^ 32 - untilMs % 2 ^ 32 + nowMs % 2 ^ 32) % 2 ^ 32 =
      (nowMs - untilMs) % 2 ^ 32 := by omega
  rw [hmod] at hnegative
  omega

/-! ## Publications -/

theorem permit_publish :
    (service.publishPdSnapshot publishedAtMs observation pending written).gate.permit =
      service.grants publishedAtMs observation pending := by
  unfold PdService.publishPdSnapshot
  dsimp only
  cases hgrants : service.grants publishedAtMs observation pending with
  | true =>
    rw [if_pos rfl]
    rfl
  | false =>
    rw [if_neg Bool.false_ne_true]
    by_contra hpermit
    have hforced := permit_setDutyCycle (Bool.eq_true_of_not_eq_false hpermit)
    cases hforced

theorem ne_none_of_supported (h : runtime.Supported) : runtime.policy.activeContract ≠ .none := by
  obtain ⟨capabilities, -, hsupports⟩ := h
  rintro hnone
  rw [hnone] at hsupports
  cases hsupports

theorem supported_of_observation {observation : PdStatusObservation}
    (h : runtime.pdStatusObservation = some observation) : runtime.Supported := by
  unfold Fusb302bRuntime.pdStatusObservation at h
  split_ifs at h
  obtain ⟨source, hsource, hobservation⟩ := Option.bind_eq_some_iff.mp h
  refine ⟨source, hsource, ?_⟩
  unfold fusb302bContractObservation at hobservation
  split_ifs at hobservation with hnone
  exact not_not.mp (not_or.mp hnone).2

theorem supported_of_continuous
    (h : runtime.continuousPpsTransition pending = true) : runtime.Supported := by
  unfold Fusb302bRuntime.continuousPpsTransition at h
  split at h
  · simp only [continuousPpsTransitionKeepsHeaterPermit, Bool.and_eq_true] at h
    have hsame := h.1.1.2
    unfold Fusb302bRuntime.sameApdoAndSafeCurrent at hsame
    split at hsame
    · rename_i active capabilities hactive hreceived
      refine ⟨capabilities, hreceived, ?_⟩
      have hsource : capabilities = runtime.policy.sourceCapabilities := by
        unfold SinkPolicy.receivedCapabilities at hreceived
        split_ifs at hreceived
        exact (Option.some.inj hreceived).symm
      rw [hsource]
      exact (ConfirmedActiveContract.isSome_iff _ _).mp (Option.isSome_iff_exists.mpr
        ⟨active, hactive⟩)
    · cases hsame
  · cases h

/-- The permit is granted for a contract that the capabilities cover. -/
theorem supported_of_grants (hobservation : ∀ observed, observation = some observed →
      service.runtime.pdStatusObservation = some observed)
    (hcovers : service.Covers publishedAtMs observation)
    (h : service.grants publishedAtMs observation pending = true) :
    service.runtime.Supported := by
  unfold PdService.grants at h
  simp only [Bool.or_eq_true] at h
  obtain (hready | hcontinuous) | hpreserves := h
  · cases hobserved : observation with
    | none => rw [hobserved] at hready; cases hready
    | some observed => exact supported_of_observation (hobservation observed hobserved)
  · exact supported_of_continuous hcontinuous
  · exact hcovers hpreserves

/-! ## Sightings -/

variable {trace : List PollStep} {contract : Contract}

theorem foldl_noteStep (htrace : ∀ step ∈ trace, ¬ step.withdraws) {sighting : Sighting}
    (hcontract : sighting.contract = contract)
    (hhandled : ∀ step ∈ sighting.handled, ¬ step.withdraws) :
    ∃ after, trace.foldl (noteStep contract) (some sighting) = some after ∧
      after.contract = contract ∧ ∀ step ∈ after.handled, ¬ step.withdraws := by
  induction trace generalizing sighting with
  | nil => exact ⟨sighting, rfl, hcontract, hhandled⟩
  | cons step rest ih =>
    have hrest : ∀ step ∈ rest, ¬ step.withdraws :=
      fun other hmem => htrace other (List.mem_cons_of_mem _ hmem)
    rw [List.foldl_cons]
    unfold noteStep
    by_cases hshows : step.showsVbus = true
    · rw [if_pos hshows]
      exact ih hrest rfl fun _ hmem => nomatch hmem
    · rw [if_neg hshows]
      refine ih hrest hcontract fun other hmem => ?_
      obtain hmem | hmem := List.mem_append.mp hmem
      · exact hhandled other hmem
      · exact htrace other (List.mem_singleton.mp hmem ▸ List.mem_cons_self)

/-- A trace that shows VBUS and withdraws nothing ends with a sighting. -/
theorem foldl_noteStep_of_shown
    (hshown : ∃ step ∈ trace, step.showsVbus) (htrace : ∀ step ∈ trace, ¬ step.withdraws)
    (sighting : Option Sighting) :
    ∃ after, trace.foldl (noteStep contract) sighting = some after ∧
      after.contract = contract ∧ ∀ step ∈ after.handled, ¬ step.withdraws := by
  obtain ⟨step, hmem, hshows⟩ := hshown
  obtain ⟨earlier, later, rfl⟩ := List.append_of_mem hmem
  rw [List.foldl_append, List.foldl_cons]
  have hnoted : noteStep contract (earlier.foldl (noteStep contract) sighting) step =
      some ⟨contract, []⟩ := if_pos hshows
  rw [hnoted]
  exact foldl_noteStep
    (fun other hother => htrace other
      (List.mem_append_right _ (List.mem_cons_of_mem _ hother))) rfl fun _ h => nomatch h

/-! ## The steps of a run -/

theorem consistent_performAll (h : Consistent runtime)
    (work : List (ℕ × RuntimeOperation)) : Consistent (runtime.performAll work) := by
  unfold Fusb302bRuntime.performAll
  induction work generalizing runtime with
  | nil => exact h
  | cons timed rest ih =>
    refine ih ?_
    exact (perform_cases runtime timed.1 timed.2).elim (fun hlaw => hlaw.consistent h)
      fun hsettles => hsettles.consistent h

/-- What a publication leaves of the permit and of the time without a sight of VBUS. -/
theorem publish_rules {written showsVbus : Bool}
    (hobservation : ∀ observed, observation = some observed →
      service.runtime.pdStatusObservation = some observed)
    (hcovers : service.Covers publishedAtMs observation)
    (hconsistent : Consistent service.runtime)
    (hsighted : service.runtime.policy.activeContract ≠ .none →
      ∃ sighting, history.sighting = some sighting ∧
        sighting.contract = service.runtime.policy.activeContract ∧
        ∀ step ∈ sighting.handled, ¬ step.withdraws)
    (hshown : service.runtime.policy.activeContract ≠ .none → showsVbus = true ∨
      (service.grants publishedAtMs observation pending = true →
        publishedAtMs - history.busAtMs ≤ unsampledLimitMs ∧
          ∀ sinceMs, history.unsampledSinceMs = some sinceMs → history.busAtMs ≤ sinceMs))
    (hbus : history.busAtMs ≤ publishedAtMs) (haction : action.atMs = publishedAtMs)
    (hpublishes : ∀ nowMs duty, action ≠ .dutyWrite nowMs duty true) :
    Invariant (history.publish service publishedAtMs observation pending written showsVbus) ∧
      PermitSound before action
        (history.publish service publishedAtMs observation pending written showsVbus) := by
  have hactive : service.grants publishedAtMs observation pending = true →
      service.runtime.Supported := supported_of_grants hobservation hcovers
  -- only a turn without a sight of VBUS goes on with the time
  have hsince : ∀ sinceMs,
      (history.publish service publishedAtMs observation pending written
        showsVbus).unsampledSinceMs = some sinceMs →
      publishedAtMs - history.busAtMs ≤ unsampledLimitMs ∧ history.busAtMs ≤ sinceMs := by
    intro sinceMs h
    unfold publish at h
    dsimp only at h
    split_ifs at h with hextends
    obtain ⟨hgrants, hunshown⟩ := hextends
    obtain hshows | hlimit := hshown (ne_none_of_supported (hactive hgrants))
    · exact absurd hshows hunshown
    · obtain ⟨hwithin, hbefore⟩ := hlimit hgrants
      refine ⟨hwithin, ?_⟩
      obtain rfl := Option.some.inj h
      cases hunsampled : history.unsampledSinceMs with
      | none => exact hbus
      | some earlierMs => exact hbefore earlierMs hunsampled
  refine ⟨⟨hconsistent, hsighted, fun hpermit => ?_, fun sinceMs h => (hsince sinceMs h).2, hbus⟩,
    ⟨fun _ hpermit => ?_, fun _ sinceMs h => ?_, fun nowMs duty h => absurd h (hpublishes _ _)⟩⟩
  · have hgrants := permit_publish.symm.trans hpermit
    refine ⟨saturatingAddU64 publishedAtMs pdSnapshotMaxAgeMs, if_pos hgrants, ?_⟩
    unfold publish PdService.publishPdSnapshot
    dsimp only
    rw [if_pos hgrants]
    rfl
  · have hsupported := hactive (permit_publish.symm.trans hpermit)
    exact ⟨hsupported, hsighted (ne_none_of_supported hsupported)⟩
  · obtain ⟨hwithin, hbefore⟩ := hsince sinceMs h
    rw [haction]
    exact (Nat.sub_le_sub_left hbefore _).trans hwithin

/-- A turn with the bus sees VBUS wherever a contract is left. -/
theorem turn_rules (h : Invariant before) {work : List (ℕ × RuntimeOperation)} {polledAtMs : ℕ}
    {transfers : PollTransfers}
    (hmeets : before.Meets (.turn work polledAtMs transfers publishedAtMs pending written)) :
    Invariant (before.step (.turn work polledAtMs transfers publishedAtMs pending written)) ∧
      PermitSound before (.turn work polledAtMs transfers publishedAtMs pending written)
        (before.step (.turn work polledAtMs transfers publishedAtMs pending written)) := by
  have hworked := consistent_performAll h.consistent work
  have hconsistent := (PollLaw.poll _ polledAtMs transfers).consistent hworked
  have hshown : (before.service.polled work polledAtMs transfers).runtime.policy.activeContract ≠
      .none → (∃ step ∈ (before.service.runtime.performAll work).pollTrace polledAtMs transfers,
        step.showsVbus) ∧
      ∀ step ∈ (before.service.runtime.performAll work).pollTrace polledAtMs transfers,
        ¬ step.withdraws := shown_of_poll hworked
  refine publish_rules (fun _ hobserved => hobserved) hmeets hconsistent (fun hactive => ?_)
    (fun hactive => .inl ?_) (le_refl publishedAtMs) rfl fun _ _ hwrite => nomatch hwrite
  · obtain ⟨hsome, hkept⟩ := hshown hactive
    unfold turnTrace
    rw [List.foldl_append]
    exact foldl_noteStep_of_shown hsome hkept _
  · obtain ⟨⟨step, hmem, hshows⟩, -⟩ := hshown hactive
    exact List.any_eq_true.mpr ⟨step, List.mem_append_right _ hmem, hshows⟩

theorem busyTurn_rules (h : Invariant before) (hclock : before.clockMs ≤ publishedAtMs)
    (hmeets : before.Meets (.busyTurn publishedAtMs pending written)) :
    Invariant (before.step (.busyTurn publishedAtMs pending written)) ∧
      PermitSound before (.busyTurn publishedAtMs pending written)
        (before.step (.busyTurn publishedAtMs pending written)) := by
  refine publish_rules (fun _ hobserved => nomatch hobserved) hmeets.1 h.consistent h.sighted
    (fun _ => .inr fun hgrants => ⟨hmeets.2 hgrants, h.unsampled⟩) (h.clock.trans hclock) rfl
    fun _ _ hwrite => nomatch hwrite

theorem dutyWrite_rules (h : Invariant before) {nowMs duty : ℕ}
    (hclock : before.clockMs ≤ nowMs) (hmeets : before.Meets (.dutyWrite nowMs duty written)) :
    Invariant (before.step (.dutyWrite nowMs duty written)) ∧
      PermitSound before (.dutyWrite nowMs duty written)
        (before.step (.dutyWrite nowMs duty written)) := by
  refine ⟨{ h with permit := fun hpermit => ?_, clock := h.clock.trans hclock },
    ⟨fun hpublishes => (nomatch hpublishes), fun hpublishes => (nomatch hpublishes), ?_⟩⟩
  · obtain ⟨untilMs, hgranted, hexpires⟩ := h.permit (permit_setDutyCycle hpermit)
    refine ⟨untilMs, hgranted, ?_⟩
    exact (HeaterPwmGate.expiresAtMs_setDutyCycle _ duty nowMs written).trans hexpires
  · rintro _ _ hwrite hover pwm hpwm
    cases hwrite
    refine duty_setDutyCycle ?_ hpwm
    by_cases hpermit : before.service.gate.permit = true
    · obtain ⟨untilMs, hgranted, hexpires⟩ := h.permit hpermit
      exact heaterPermitIsActive_of_over hexpires (hover untilMs hgranted)
        (hmeets hpermit untilMs hgranted)
    · exact decide_eq_false fun hactive => hpermit hactive.1

theorem step_rules (h : Invariant before) (hnext : Next before action after) :
    Invariant after ∧ PermitSound before action after := by
  obtain ⟨hmeets, hclock, rfl⟩ := hnext
  cases action with
  | turn work polledAtMs transfers publishedAtMs pending written => exact turn_rules h hmeets
  | busyTurn publishedAtMs pending written => exact busyTurn_rules h hclock hmeets
  | dutyWrite nowMs duty written => exact dutyWrite_rules h hclock hmeets

theorem invariant_of_reaches {pwm : Option HeaterPwm} {actions : List ServiceAction}
    (hrun : Reaches Next (starting pwm) actions history) : Invariant history :=
  hrun.invariant (invariant_starting pwm) fun _ _ _ h hnext => (step_rules h hnext).1

/-- In every run whose actions meet the conditions, every action keeps the rules. -/
theorem permitSound_of_reaches (pwm : Option HeaterPwm) (actions : List ServiceAction)
    (before : PermitHistory) (hrun : Reaches Next (starting pwm) actions before)
    (action : ServiceAction) (after : PermitHistory) (hnext : Next before action after) :
    PermitSound before action after :=
  (step_rules (invariant_of_reaches hrun) hnext).2

/-! ## A contract that the source has withdrawn -/

/-- 5 V with 500 mA only, and 9 V with 3 A. -/
def lowerOffer : PdPacket := ⟨0x2601, [0x32, 0x90, 0x01, 0x00, 0x2c, 0xd1, 0x02, 0x00]⟩

/-- The source confirms 5 V with 1 A, and withdraws it by new capabilities. -/
def withdrawnOffer : ServiceAction := .turn [] 12 (.receiving [lowerOffer]) 13 none true

theorem not_permitSound : ∃ before after,
    Reaches Step (starting none) [.confirm] before ∧ Step before withdrawnOffer after ∧
      ¬ PermitSound before withdrawnOffer after := by
  refine ⟨(starting none).step .confirm, ((starting none).step .confirm).step withdrawnOffer,
    .step .refl ⟨by decide +kernel, rfl⟩, ⟨by decide +kernel, rfl⟩, fun hsound => ?_⟩
  have hpermit : (((starting none).step .confirm).step
      withdrawnOffer).service.gate.permit = true := by decide +kernel
  have hnone : (((starting none).step .confirm).step
      withdrawnOffer).service.runtime.policy.activeContract = .none := by decide +kernel
  exact ne_none_of_supported (hsound.granted rfl hpermit).1 hnone

/-- The first contract of a source gets the permit. -/
theorem permitSound_confirm : ((starting none).step .confirm).service.gate.permit = true ∧
      PermitSound (starting none) .confirm ((starting none).step .confirm) := by
  refine ⟨by decide +kernel, permitSound_of_reaches none [] _ .refl .confirm _ ⟨?_, ?_, rfl⟩⟩
  · -- the turn ends with an observation, so that the rule does not apply
    intro hpreserves
    have hdoes : ((starting none).service.polled [] 7
        (.receiving [.fixedOffer, .accepted, .psReady])).preservePreviousContract 8
        ((starting none).service.polled [] 7
          (.receiving [.fixedOffer, .accepted, .psReady])).runtime.pdStatusObservation = false := by
      decide +kernel
    exact absurd hpreserves (Bool.eq_false_iff.mp hdoes)
  · decide +kernel

end PermitHistory

end FluxPurr.Pd
