import FluxPurr.Runs.Reaches

/-!
# The Wi-Fi provisioning machine

The network task feeds events to the machine and executes the effect of each transition.
Before it looks at an event the machine checks its deadlines, and an event that comes too late
is replaced by a timeout (`expiredEvent`), a command of the user like any other.

Apart from these replaced commands the machine does what it should.  `Retries` counts the
failures since the last command or disconnect beside the machine, and is kept by every event
(`Retries.applyAt`); what a command does follows from `applyAt_of_inTime` and
`applyAt_of_late`.  Both are put together in `lawful_iff_inTime`.
-/

namespace FluxPurr.Wifi

open FluxPurr.Runs

abbrev savingTimeoutMs : ℕ := 3000
abbrev provisioningTimeoutMs : ℕ := 30000
abbrev maxProvisioningAttempts : ℕ := 3

inductive NetworkState where
  | disabled
  | idle
  | saving
  | connecting
  | connected
  | error
  | timeout
deriving DecidableEq, Repr

inductive NetworkFailureCode where
  | disconnectTimedOut
  | configurationFailed
  | associationRejected
  | associationTimedOut
  | ipv4TimedOut
  | stationDisconnected
  | lanStartupFailed
deriving DecidableEq, Repr

inductive WifiEvent where
  | applyConfig
  | clearConfig
  | cancelProvisioning
  | disconnectCompleted
  | disconnectTimedOut
  | driverConfigured
  | driverConfigurationFailed
  | associationSucceeded
  | associationFailed
  | associationTimedOut
  | ipv4Configured
  | ipv4TimedOut
  | provisioningTimedOut
  | retryDelayElapsed
  | stationDisconnected (autoReconnect : Bool)
  | lanStartupFailed
deriving DecidableEq, Repr

inductive WifiEffect where
  | none
  | disconnect
  | configureDriver
  | associate
  | awaitIpv4
  | retryAfterDelay
deriving DecidableEq, Repr

structure WifiTransition where
  accepted : Bool
  state : NetworkState
  failureCode : Option NetworkFailureCode
  configurationGeneration : UInt32
  transitionSequence : UInt32
  effect : WifiEffect
deriving DecidableEq, Repr

structure WifiProvisioningMachine where
  state : NetworkState
  failureCode : Option NetworkFailureCode
  configurationGeneration : UInt32
  transitionSequence : UInt32
  attempts : ℕ
  provisioningStartedAtMs : Option ℕ
deriving DecidableEq, Repr

namespace WifiProvisioningMachine

def new : WifiProvisioningMachine := ⟨.disabled, none, 0, 0, 0, none⟩

def transition (machine : WifiProvisioningMachine) (accepted : Bool) (effect : WifiEffect) :
    WifiTransition :=
  ⟨accepted, machine.state, machine.failureCode, machine.configurationGeneration,
    machine.transitionSequence, effect⟩

def accepts (machine : WifiProvisioningMachine) : WifiEvent → Bool
  | .applyConfig | .clearConfig | .lanStartupFailed => true
  | .cancelProvisioning => ¬(machine.state = .disabled ∨ machine.state = .idle)
  | .disconnectCompleted | .disconnectTimedOut => machine.state = .saving
  | .driverConfigured | .driverConfigurationFailed | .associationSucceeded
  | .associationFailed | .associationTimedOut | .ipv4Configured | .ipv4TimedOut
  | .provisioningTimedOut => machine.state = .connecting
  | .retryDelayElapsed => machine.state = .connecting
  | .stationDisconnected _ => machine.state = .connected

def expiredEvent (machine : WifiProvisioningMachine) (event : WifiEvent) (nowMs : ℕ) : WifiEvent :=
  match machine.provisioningStartedAtMs with
  | none => event
  | some startedAtMs =>
      let elapsedMs := nowMs - startedAtMs
      if machine.state = .saving ∧ savingTimeoutMs < elapsedMs then .disconnectTimedOut
      else if machine.state = .connecting ∧ provisioningTimeoutMs < elapsedMs then
        .provisioningTimedOut
      else event

/-- Counts an attempt.  The attempts are a `u8`. -/
def retryOrTerminal (machine : WifiProvisioningMachine) (failureCode : NetworkFailureCode)
    (terminal : NetworkState) :
    WifiProvisioningMachine × NetworkState × Option NetworkFailureCode × WifiEffect :=
  let machine := { machine with attempts := min 255 (machine.attempts + 1) }
  if machine.attempts < maxProvisioningAttempts then
    (machine, .connecting, none, .retryAfterDelay)
  else (machine, terminal, some failureCode, .none)

/-- The branches of `apply_at` for an event that is accepted. -/
def respond (machine : WifiProvisioningMachine) (nowMs : ℕ) :
    WifiEvent →
      WifiProvisioningMachine × NetworkState × Option NetworkFailureCode × WifiEffect
  | .clearConfig =>
      ({ machine with
          configurationGeneration := machine.configurationGeneration + 1
          attempts := 0
          provisioningStartedAtMs := none }, .disabled, none, .none)
  | .cancelProvisioning =>
      ({ machine with attempts := 0, provisioningStartedAtMs := none }, .idle, none, .disconnect)
  | .applyConfig =>
      ({ machine with
          configurationGeneration := machine.configurationGeneration + 1
          attempts := 0
          provisioningStartedAtMs := some nowMs }, .saving, none, .disconnect)
  | .disconnectCompleted => (machine, .connecting, none, .configureDriver)
  | .disconnectTimedOut => (machine, .error, some .disconnectTimedOut, .none)
  | .driverConfigured => (machine, .connecting, none, .associate)
  | .driverConfigurationFailed => machine.retryOrTerminal .configurationFailed .error
  | .associationSucceeded => (machine, .connecting, none, .awaitIpv4)
  | .associationFailed => machine.retryOrTerminal .associationRejected .error
  | .associationTimedOut => machine.retryOrTerminal .associationTimedOut .error
  | .ipv4Configured =>
      ({ machine with provisioningStartedAtMs := none }, .connected, none, .none)
  | .ipv4TimedOut => machine.retryOrTerminal .ipv4TimedOut .error
  | .provisioningTimedOut => (machine, .error, some .ipv4TimedOut, .none)
  | .retryDelayElapsed => (machine, .connecting, none, .configureDriver)
  | .stationDisconnected true =>
      ({ machine with attempts := 0, provisioningStartedAtMs := some nowMs }, .connecting, none,
        .retryAfterDelay)
  | .stationDisconnected false => (machine, .error, some .stationDisconnected, .none)
  | .lanStartupFailed => (machine, .error, some .lanStartupFailed, .none)

def applyAt (machine : WifiProvisioningMachine) (event : WifiEvent) (nowMs : ℕ) :
    WifiTransition × WifiProvisioningMachine :=
  let event := machine.expiredEvent event nowMs
  if !machine.accepts event then (machine.transition false .none, machine)
  else
    let (machine, state, failureCode, effect) := machine.respond nowMs event
    let machine := { machine with
      state := state
      failureCode := failureCode
      transitionSequence := machine.transitionSequence + 1 }
    (machine.transition true effect, machine)

variable {machine after : WifiProvisioningMachine} {event : WifiEvent} {nowMs : ℕ}

/-! ## Deadlines -/

/-- The saving or the provisioning deadline of the last attempt has expired. -/
def DeadlineExpired (machine : WifiProvisioningMachine) (nowMs : ℕ) : Prop :=
  ∃ startedAtMs, machine.provisioningStartedAtMs = some startedAtMs ∧
    (machine.state = .saving ∧ savingTimeoutMs < nowMs - startedAtMs ∨
      machine.state = .connecting ∧ provisioningTimeoutMs < nowMs - startedAtMs)

theorem expiredEvent_of_inTime (event : WifiEvent) (h : ¬machine.DeadlineExpired nowMs) :
    machine.expiredEvent event nowMs = event := by
  unfold expiredEvent
  cases hstarted : machine.provisioningStartedAtMs with
  | none => rfl
  | some startedAtMs =>
    have hsaving : ¬(machine.state = .saving ∧ savingTimeoutMs < nowMs - startedAtMs) :=
      fun hlate => h ⟨startedAtMs, hstarted, .inl hlate⟩
    have hconnecting :
        ¬(machine.state = .connecting ∧ provisioningTimeoutMs < nowMs - startedAtMs) :=
      fun hlate => h ⟨startedAtMs, hstarted, .inr hlate⟩
    dsimp only
    rw [if_neg hsaving, if_neg hconnecting]

/-- After the deadline every event is a timeout, and the machine accepts it. -/
theorem expiredEvent_of_late (event : WifiEvent) (h : machine.DeadlineExpired nowMs) :
    machine.state = .saving ∧ machine.expiredEvent event nowMs = .disconnectTimedOut ∨
      machine.state = .connecting ∧ machine.expiredEvent event nowMs = .provisioningTimedOut := by
  obtain ⟨startedAtMs, hstarted, hlate | hlate⟩ := h
  · refine .inl ⟨hlate.1, ?_⟩
    unfold expiredEvent
    rw [hstarted]
    dsimp only
    rw [if_pos hlate]
  · have hsaving : ¬(machine.state = .saving ∧ savingTimeoutMs < nowMs - startedAtMs) := by
      rw [hlate.1]
      exact fun h => by cases h.1
    refine .inr ⟨hlate.1, ?_⟩
    unfold expiredEvent
    rw [hstarted]
    dsimp only
    rw [if_neg hsaving, if_pos hlate]

/-! ## One event -/

theorem applyAt_of_rejected (h : machine.accepts (machine.expiredEvent event nowMs) = false) :
    machine.applyAt event nowMs = (machine.transition false .none, machine) := by
  unfold applyAt
  dsimp only
  rw [h]
  rfl

theorem applyAt_of_accepted (h : machine.accepts (machine.expiredEvent event nowMs) = true) :
    (machine.applyAt event nowMs).2 =
      { (machine.respond nowMs (machine.expiredEvent event nowMs)).1 with
        state := (machine.respond nowMs (machine.expiredEvent event nowMs)).2.1
        failureCode := (machine.respond nowMs (machine.expiredEvent event nowMs)).2.2.1
        transitionSequence :=
          (machine.respond nowMs (machine.expiredEvent event nowMs)).1.transitionSequence + 1 } ∧
      (machine.applyAt event nowMs).1 =
        (machine.applyAt event nowMs).2.transition true
          (machine.respond nowMs (machine.expiredEvent event nowMs)).2.2.2 := by
  unfold applyAt
  dsimp only
  rw [h]
  exact ⟨rfl, rfl⟩

theorem accepted_eq (machine : WifiProvisioningMachine) (event : WifiEvent) (nowMs : ℕ) :
    (machine.applyAt event nowMs).1.accepted =
      machine.accepts (machine.expiredEvent event nowMs) := by
  cases h : machine.accepts (machine.expiredEvent event nowMs) with
  | false => rw [applyAt_of_rejected h]; rfl
  | true => rw [(applyAt_of_accepted h).2]; rfl

/-- After the deadline the machine ends in an error, whatever it was asked to do. -/
theorem state_applyAt_of_late (event : WifiEvent) (h : machine.DeadlineExpired nowMs) :
    (machine.applyAt event nowMs).2.state = .error := by
  obtain ⟨hstate, hevent⟩ | ⟨hstate, hevent⟩ := expiredEvent_of_late event h
  · have haccepts : machine.accepts (machine.expiredEvent event nowMs) = true := by
      rw [hevent]
      exact decide_eq_true hstate
    rw [(applyAt_of_accepted haccepts).1, hevent]
    rfl
  · have haccepts : machine.accepts (machine.expiredEvent event nowMs) = true := by
      rw [hevent]
      exact decide_eq_true hstate
    rw [(applyAt_of_accepted haccepts).1, hevent]
    rfl

end WifiProvisioningMachine

open WifiProvisioningMachine

namespace WifiEvent

def isCommand : WifiEvent → Bool
  | applyConfig | clearConfig | cancelProvisioning => true
  | _ => false

def isDisconnect : WifiEvent → Bool
  | stationDisconnected _ => true
  | _ => false

def isFailure : WifiEvent → Bool
  | disconnectTimedOut | driverConfigurationFailed | associationFailed | associationTimedOut
  | ipv4TimedOut | provisioningTimedOut | lanStartupFailed => true
  | _ => false

theorem not_reset_of_isFailure {event : WifiEvent} (h : event.isFailure = true) :
    ¬(event.isCommand = true ∨ event.isDisconnect = true) := by
  cases event with
  | stationDisconnected autoReconnect | applyConfig | clearConfig | cancelProvisioning => cases h
  | _ => decide

end WifiEvent

namespace WifiProvisioningMachine

variable {machine after : WifiProvisioningMachine} {event : WifiEvent} {nowMs : ℕ}

/-! ## Commands -/

/-- A configuration has a number of its own. -/
def NewGeneration (machine after : WifiProvisioningMachine) : Prop :=
  after.configurationGeneration = machine.configurationGeneration + 1 ∧
    after.configurationGeneration ≠ machine.configurationGeneration

theorem newGeneration_of_eq
    (h : after.configurationGeneration = machine.configurationGeneration + 1) :
    NewGeneration machine after := by
  refine ⟨h, fun heq => ?_⟩
  have hnat : (machine.configurationGeneration + 1).toNat =
      machine.configurationGeneration.toNat := congrArg UInt32.toNat (h.symm.trans heq)
  have hlt := machine.configurationGeneration.toNat_lt
  rw [UInt32.toNat_add, UInt32.toNat_one] at hnat
  omega

/-- What the user is promised of a command. -/
def Obeys (machine : WifiProvisioningMachine) (nowMs : ℕ) : WifiEvent → Prop
  | .applyConfig =>
      (machine.applyAt .applyConfig nowMs).2.state = .saving ∧
        (machine.applyAt .applyConfig nowMs).1.effect = .disconnect ∧
        NewGeneration machine (machine.applyAt .applyConfig nowMs).2 ∧
        (machine.applyAt .applyConfig nowMs).2.attempts = 0
  | .clearConfig =>
      (machine.applyAt .clearConfig nowMs).2.state = .disabled ∧
        NewGeneration machine (machine.applyAt .clearConfig nowMs).2
  | .cancelProvisioning =>
      machine.state ≠ .disabled → machine.state ≠ .idle →
        (machine.applyAt .cancelProvisioning nowMs).2.state = .idle
  | _ => True

theorem applyAt_of_inTime (event : WifiEvent) (h : ¬machine.DeadlineExpired nowMs)
    (haccepts : machine.accepts event = true) :
    (machine.applyAt event nowMs).2 =
      { (machine.respond nowMs event).1 with
        state := (machine.respond nowMs event).2.1
        failureCode := (machine.respond nowMs event).2.2.1
        transitionSequence := (machine.respond nowMs event).1.transitionSequence + 1 } ∧
      (machine.applyAt event nowMs).1 =
        (machine.applyAt event nowMs).2.transition true (machine.respond nowMs event).2.2.2 := by
  have hevent := expiredEvent_of_inTime event h
  have happlied := @applyAt_of_accepted machine event nowMs (by rw [hevent, haccepts])
  rwa [hevent] at happlied

theorem obeys_of_inTime (h : ¬machine.DeadlineExpired nowMs) : machine.Obeys nowMs event := by
  cases event with
  | applyConfig =>
    obtain ⟨hafter, htransition⟩ := applyAt_of_inTime .applyConfig h rfl
    refine ⟨?_, ?_, newGeneration_of_eq ?_, ?_⟩
    · rw [hafter]; rfl
    · rw [htransition]; rfl
    · rw [hafter]; rfl
    · rw [hafter]; rfl
  | clearConfig =>
    obtain ⟨hafter, -⟩ := applyAt_of_inTime .clearConfig h rfl
    refine ⟨?_, newGeneration_of_eq ?_⟩
    · rw [hafter]; rfl
    · rw [hafter]; rfl
  | cancelProvisioning =>
    intro hdisabled hidle
    have haccepts : machine.accepts .cancelProvisioning = true :=
      decide_eq_true fun h => h.elim hdisabled hidle
    rw [(applyAt_of_inTime .cancelProvisioning h haccepts).1]
    rfl
  | _ => trivial

theorem not_obeys_of_late (h : machine.DeadlineExpired nowMs) (hcommand : event.isCommand = true) :
    ¬machine.Obeys nowMs event := by
  intro hobeys
  have herror := state_applyAt_of_late event h
  cases event with
  | applyConfig | clearConfig => cases herror.symm.trans hobeys.1
  | cancelProvisioning =>
    have hstate : machine.state ≠ .disabled ∧ machine.state ≠ .idle := by
      obtain ⟨hstate, -⟩ | ⟨hstate, -⟩ := expiredEvent_of_late .cancelProvisioning h
      · rw [hstate]
        decide
      · rw [hstate]
        decide
    cases herror.symm.trans (hobeys hstate.1 hstate.2)
  | _ => cases hcommand

theorem obeys_iff_inTime :
    machine.Obeys nowMs event ↔ (event.isCommand = true → ¬machine.DeadlineExpired nowMs) := by
  refine ⟨fun hobeys hcommand hlate => not_obeys_of_late hlate hcommand hobeys, fun h => ?_⟩
  by_cases hlate : machine.DeadlineExpired nowMs
  · cases event with
    | applyConfig | clearConfig | cancelProvisioning => exact absurd hlate (h rfl)
    | _ => trivial
  · exact obeys_of_inTime hlate

end WifiProvisioningMachine

/-! ## The failures of a run -/

/-- The machine and the failures it has accepted since the last command or disconnect,
until it reached an error. -/
structure Retries where
  machine : WifiProvisioningMachine
  failures : ℕ
deriving DecidableEq

namespace Retries

def new : Retries := ⟨.new, 0⟩

def countFailure (retries : Retries) (event : WifiEvent) : ℕ :=
  if event.isCommand ∨ event.isDisconnect then 0
  else if event.isFailure ∧ retries.machine.state ≠ .error then retries.failures + 1
  else retries.failures

def applyAt (retries : Retries) (event : WifiEvent) (nowMs : ℕ) : Retries where
  machine := (retries.machine.applyAt event nowMs).2
  failures :=
    if (retries.machine.applyAt event nowMs).1.accepted then
      retries.countFailure (retries.machine.expiredEvent event nowMs)
    else retries.failures

/-- The machine gets an event at some time. -/
def Next (retries : Retries) (action : WifiEvent × ℕ) (after : Retries) : Prop :=
  after = retries.applyAt action.1 action.2

structure Invariant (retries : Retries) : Prop where
  failureCode : retries.machine.failureCode.isSome = true ↔ retries.machine.state = .error
  attempts : retries.machine.state ≠ .error →
    retries.machine.attempts = retries.failures ∧ retries.failures < maxProvisioningAttempts
  bounded : retries.failures ≤ maxProvisioningAttempts

variable {retries after : Retries} {event : WifiEvent} {nowMs : ℕ}
  {actions : List (WifiEvent × ℕ)}

theorem invariant_new : Invariant new where
  failureCode := by decide
  attempts := fun _ => by decide
  bounded := by decide

theorem Invariant.of_error (hstate : retries.machine.state = .error)
    (hcode : retries.machine.failureCode.isSome = true)
    (hbounded : retries.failures ≤ maxProvisioningAttempts) : retries.Invariant where
  failureCode := iff_of_true hcode hstate
  attempts := fun h => absurd hstate h
  bounded := hbounded

theorem Invariant.of_attempts (hstate : retries.machine.state ≠ .error)
    (hcode : retries.machine.failureCode = none)
    (hattempts : retries.machine.attempts = retries.failures)
    (hlt : retries.failures < maxProvisioningAttempts) : retries.Invariant where
  failureCode := by
    rw [hcode]
    exact iff_of_false (fun h => by cases h) hstate
  attempts := fun _ => ⟨hattempts, hlt⟩
  bounded := Nat.le_of_lt hlt

theorem Invariant.retry (h : retries.Invariant) (hstate : retries.machine.state = .connecting)
    (failureCode : NetworkFailureCode) (sequence : UInt32) :
    Invariant ⟨{ (retries.machine.retryOrTerminal failureCode .error).1 with
      state := (retries.machine.retryOrTerminal failureCode .error).2.1
      failureCode := (retries.machine.retryOrTerminal failureCode .error).2.2.1
      transitionSequence := sequence }, retries.failures + 1⟩ := by
  obtain ⟨hattempts, hlt⟩ := h.attempts (by rw [hstate]; decide)
  have hmax : maxProvisioningAttempts = 3 := rfl
  have hnext : min 255 (retries.machine.attempts + 1) = retries.failures + 1 := by
    rw [hattempts]
    omega
  unfold retryOrTerminal
  dsimp only
  split
  · next hmore => exact .of_attempts (fun h => by cases h) rfl hnext (hnext ▸ hmore)
  · exact .of_error rfl rfl hlt

theorem countFailure_of_failure (hfailure : event.isFailure = true)
    (hstate : retries.machine.state ≠ .error) :
    retries.countFailure event = retries.failures + 1 := by
  unfold countFailure
  rw [if_neg (WifiEvent.not_reset_of_isFailure hfailure), if_pos ⟨hfailure, hstate⟩]

theorem Invariant.respond (h : retries.Invariant) (nowMs : ℕ) (sequence : UInt32)
    (haccepts : retries.machine.accepts event = true) :
    Invariant ⟨{ (retries.machine.respond nowMs event).1 with
      state := (retries.machine.respond nowMs event).2.1
      failureCode := (retries.machine.respond nowMs event).2.2.1
      transitionSequence := sequence }, retries.countFailure event⟩ := by
  have hzero : 0 < maxProvisioningAttempts := by decide
  cases event with
  | applyConfig | clearConfig | cancelProvisioning =>
    exact .of_attempts (fun h => by cases h) rfl rfl hzero
  | stationDisconnected autoReconnect =>
    cases autoReconnect with
    | true => exact .of_attempts (fun h => by cases h) rfl rfl hzero
    | false => exact .of_error rfl rfl (Nat.zero_le _)
  | disconnectCompleted =>
    have hstate : retries.machine.state = .saving := of_decide_eq_true haccepts
    obtain ⟨hattempts, hlt⟩ := h.attempts (by rw [hstate]; decide)
    exact .of_attempts (fun h => by cases h) rfl hattempts hlt
  | driverConfigured | associationSucceeded | ipv4Configured | retryDelayElapsed =>
    have hstate : retries.machine.state = .connecting := of_decide_eq_true haccepts
    obtain ⟨hattempts, hlt⟩ := h.attempts (by rw [hstate]; decide)
    exact .of_attempts (fun h => by cases h) rfl hattempts hlt
  | driverConfigurationFailed | associationFailed | associationTimedOut | ipv4TimedOut =>
    have hstate : retries.machine.state = .connecting := of_decide_eq_true haccepts
    rw [countFailure_of_failure rfl (by rw [hstate]; decide)]
    exact h.retry hstate _ sequence
  | disconnectTimedOut =>
    have hstate : retries.machine.state = .saving := of_decide_eq_true haccepts
    have hne : retries.machine.state ≠ .error := by rw [hstate]; decide
    rw [countFailure_of_failure rfl hne]
    exact .of_error rfl rfl (h.attempts hne).2
  | provisioningTimedOut =>
    have hstate : retries.machine.state = .connecting := of_decide_eq_true haccepts
    have hne : retries.machine.state ≠ .error := by rw [hstate]; decide
    rw [countFailure_of_failure rfl hne]
    exact .of_error rfl rfl (h.attempts hne).2
  | lanStartupFailed =>
    refine .of_error rfl rfl ?_
    by_cases hstate : retries.machine.state = .error
    · unfold countFailure
      rw [if_neg (by decide), if_neg fun h => h.2 hstate]
      exact h.bounded
    · rw [countFailure_of_failure rfl hstate]
      exact (h.attempts hstate).2

theorem Invariant.applyAt (h : retries.Invariant) (event : WifiEvent) (nowMs : ℕ) :
    (retries.applyAt event nowMs).Invariant := by
  unfold Retries.applyAt
  rw [accepted_eq]
  cases haccepts : retries.machine.accepts (retries.machine.expiredEvent event nowMs) with
  | false =>
    rw [applyAt_of_rejected haccepts]
    exact h
  | true =>
    rw [(applyAt_of_accepted haccepts).1]
    exact h.respond nowMs _ haccepts

/-! ## Every event of a run -/

/-- What holds of the machine when it gets this event. -/
structure Lawful (retries : Retries) (event : WifiEvent) (nowMs : ℕ) : Prop where
  obeys : retries.machine.Obeys nowMs event
  failureCode : retries.machine.failureCode.isSome = true ↔ retries.machine.state = .error
  bounded : retries.failures ≤ maxProvisioningAttempts ∧
    (retries.failures = maxProvisioningAttempts → retries.machine.state = .error)
  rejected : (retries.machine.applyAt event nowMs).1.accepted = false →
    (retries.machine.applyAt event nowMs).2 = retries.machine

/-- The machine gets every event as it should, except for a command that comes after the
deadline of the last attempt. -/
theorem lawful_iff_inTime (event : WifiEvent) (nowMs : ℕ) (h : Reaches Next new actions retries) :
    retries.Lawful event nowMs ↔
      (event.isCommand = true → ¬retries.machine.DeadlineExpired nowMs) := by
  have hinvariant : retries.Invariant :=
    h.invariant invariant_new fun _ _ _ hinvariant hnext => by
      rw [hnext]
      exact hinvariant.applyAt _ _
  constructor
  · exact fun hlawful => obeys_iff_inTime.mp hlawful.obeys
  · intro hinTime
    refine ⟨obeys_iff_inTime.mpr hinTime, hinvariant.failureCode,
      ⟨hinvariant.bounded, fun hmax => ?_⟩, fun hrejected => ?_⟩
    · by_contra hstate
      exact absurd (hinvariant.attempts hstate).2 (hmax ▸ Nat.lt_irrefl _)
    · rw [accepted_eq] at hrejected
      rw [applyAt_of_rejected hrejected]

/-- A first configuration is applied while another is being saved. -/
def saving : Retries := new.applyAt .applyConfig 0

theorem reaches_saving : Reaches Next new [(.applyConfig, 0)] saving := .step .refl rfl

/-- One second later the second configuration is obeyed. -/
theorem lawful_iff_inTime_saving : saving.Lawful .applyConfig 1000 := by
  refine (lawful_iff_inTime .applyConfig 1000 reaches_saving).mpr fun _ => ?_
  rintro ⟨startedAtMs, hstarted, ⟨-, hlate⟩ | ⟨hstate, -⟩⟩
  · cases hstarted
    exact absurd hlate (by decide)
  · cases hstate

/-- Four seconds later it is lost: the machine reports a timeout instead. -/
theorem not_all_lawful :
    ¬∀ (actions : List (WifiEvent × ℕ)) (retries : Retries), Reaches Next new actions retries →
      ∀ (event : WifiEvent) (nowMs : ℕ), retries.Lawful event nowMs := by
  intro h
  have hobeys := (h _ _ reaches_saving .applyConfig 4000).obeys
  exact absurd hobeys.1 (by decide)

/-! ## The time of an attempt -/

def timeLimitMs : NetworkState → Option ℕ
  | .saving => some savingTimeoutMs
  | .connecting => some provisioningTimeoutMs
  | _ => none

/-- A state with a time limit knows when the attempt was started, and is within the limit. -/
def InTime (machine : WifiProvisioningMachine) (nowMs : ℕ) : Prop :=
  ∀ limitMs ∈ timeLimitMs machine.state,
    ∃ startedAtMs ∈ machine.provisioningStartedAtMs, nowMs - startedAtMs ≤ limitMs

variable {machine : WifiProvisioningMachine} {beforeMs : ℕ}

theorem inTime_of_not_late (h : InTime machine beforeMs) (hlate : ¬machine.DeadlineExpired nowMs) :
    InTime machine nowMs := by
  intro limitMs hlimit
  obtain ⟨startedAtMs, hstarted, -⟩ := h limitMs hlimit
  refine ⟨startedAtMs, hstarted, ?_⟩
  by_contra hlong
  refine hlate ⟨startedAtMs, hstarted, ?_⟩
  cases hstate : machine.state <;> rw [hstate] at hlimit <;> cases hlimit
  · exact .inl ⟨rfl, Nat.not_le.mp hlong⟩
  · exact .inr ⟨rfl, Nat.not_le.mp hlong⟩

/-- An attempt goes on with its own start, or a new one starts now. -/
theorem InTime.respond (h : InTime machine nowMs) (sequence : UInt32)
    (haccepts : machine.accepts event = true) :
    InTime { (machine.respond nowMs event).1 with
      state := (machine.respond nowMs event).2.1
      failureCode := (machine.respond nowMs event).2.2.1
      transitionSequence := sequence } nowMs := by
  cases event with
  | clearConfig | cancelProvisioning | ipv4Configured | disconnectTimedOut
  | provisioningTimedOut | lanStartupFailed => rintro _ ⟨⟩
  | applyConfig =>
    rintro _ ⟨⟩
    exact ⟨nowMs, rfl, by omega⟩
  | stationDisconnected autoReconnect =>
    cases autoReconnect with
    | false => rintro _ ⟨⟩
    | true =>
      rintro _ ⟨⟩
      exact ⟨nowMs, rfl, by omega⟩
  | disconnectCompleted =>
    have hstate : machine.state = .saving := of_decide_eq_true haccepts
    obtain ⟨startedAtMs, hstarted, hle⟩ := h savingTimeoutMs (by rw [hstate]; rfl)
    rintro _ ⟨⟩
    exact ⟨startedAtMs, hstarted, Nat.le_trans hle (by decide)⟩
  | driverConfigured | associationSucceeded | retryDelayElapsed =>
    have hstate : machine.state = .connecting := of_decide_eq_true haccepts
    rintro _ ⟨⟩
    exact h provisioningTimeoutMs (by rw [hstate]; rfl)
  | driverConfigurationFailed | associationFailed | associationTimedOut | ipv4TimedOut =>
    have hstate : machine.state = .connecting := of_decide_eq_true haccepts
    unfold WifiProvisioningMachine.respond retryOrTerminal
    dsimp only
    split
    · rintro _ ⟨⟩
      exact h provisioningTimeoutMs (by rw [hstate]; rfl)
    · rintro _ ⟨⟩

theorem inTime_applyAt (h : InTime machine beforeMs) (event : WifiEvent) (nowMs : ℕ) :
    InTime (machine.applyAt event nowMs).2 nowMs := by
  by_cases hlate : machine.DeadlineExpired nowMs
  · intro limitMs hlimit
    rw [state_applyAt_of_late event hlate] at hlimit
    cases hlimit
  have hinTime := inTime_of_not_late h hlate
  cases haccepts : machine.accepts event with
  | false =>
    rw [applyAt_of_rejected (by rw [expiredEvent_of_inTime event hlate, haccepts])]
    exact hinTime
  | true =>
    rw [(applyAt_of_inTime event hlate haccepts).1]
    exact hinTime.respond _ haccepts

/-- An attempt begins with a new configuration or a lost connection only. -/
def Begins (event : WifiEvent) : Prop := event = .applyConfig ∨ event = .stationDisconnected true

theorem begins_of_respond {startedAtMs : ℕ}
    (h : startedAtMs ∈ (machine.respond nowMs event).1.provisioningStartedAtMs) :
    startedAtMs ∈ machine.provisioningStartedAtMs ∨ startedAtMs = nowMs ∧ Begins event := by
  cases event with
  | clearConfig | cancelProvisioning | ipv4Configured => cases h
  | applyConfig =>
    cases h
    exact .inr ⟨rfl, .inl rfl⟩
  | stationDisconnected autoReconnect =>
    cases autoReconnect with
    | false => exact .inl h
    | true =>
      cases h
      exact .inr ⟨rfl, .inr rfl⟩
  | driverConfigurationFailed | associationFailed | associationTimedOut | ipv4TimedOut =>
    dsimp only [WifiProvisioningMachine.respond, retryOrTerminal] at h
    split at h
    · exact .inl h
    · exact .inl h
  | _ => exact .inl h

theorem begins_of_applyAt {startedAtMs : ℕ}
    (h : startedAtMs ∈ (machine.applyAt event nowMs).2.provisioningStartedAtMs) :
    startedAtMs ∈ machine.provisioningStartedAtMs ∨ startedAtMs = nowMs ∧ Begins event := by
  cases haccepts : machine.accepts (machine.expiredEvent event nowMs) with
  | false =>
    rw [applyAt_of_rejected haccepts] at h
    exact .inl h
  | true =>
    rw [(applyAt_of_accepted haccepts).1] at h
    refine (begins_of_respond h).imp_right fun ⟨hnow, hbegins⟩ => ⟨hnow, ?_⟩
    by_cases hlate : machine.DeadlineExpired nowMs
    · obtain ⟨-, heq⟩ | ⟨-, heq⟩ := expiredEvent_of_late event hlate
      · simp [Begins, heq] at hbegins
      · simp [Begins, heq] at hbegins
    · rwa [expiredEvent_of_inTime event hlate] at hbegins

/-- Whatever comes at whatever time, an attempt that goes on after it is within its limit, and
no retry begins its time anew. -/
theorem inTime_of_reaches (event : WifiEvent) (nowMs : ℕ) (h : Reaches Next new actions retries) :
    InTime (retries.machine.applyAt event nowMs).2 nowMs ∧
      ∀ startedAtMs ∈ (retries.machine.applyAt event nowMs).2.provisioningStartedAtMs,
        startedAtMs ∈ retries.machine.provisioningStartedAtMs ∨
          startedAtMs = nowMs ∧ Begins event := by
  have hbefore : ∃ beforeMs, InTime retries.machine beforeMs := by
    induction h with
    | refl => exact ⟨0, by rintro _ ⟨⟩⟩
    | step _ hnext ih =>
      obtain ⟨beforeMs, ih⟩ := ih
      rw [hnext]
      exact ⟨_, inTime_applyAt ih _ _⟩
  obtain ⟨beforeMs, hbefore⟩ := hbefore
  exact ⟨inTime_applyAt hbefore event nowMs, fun _ => begins_of_applyAt⟩

/-- The first configuration is saved two seconds later. -/
theorem inTime_saving : InTime (saving.machine.applyAt .disconnectCompleted 2000).2 2000 :=
  (inTime_of_reaches .disconnectCompleted 2000 reaches_saving).1

end Retries

end FluxPurr.Wifi
