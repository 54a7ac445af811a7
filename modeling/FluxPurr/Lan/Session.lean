import FluxPurr.Lan.HttpGate
import FluxPurr.Runs.Reaches

/-!
# Sessions of the LAN gate

A session is the state of the gate with the events of its run: windows that were opened
and closed, claims, a cleared token, and what became of the leases.  The events are read
off the inputs and the answers alone, and `windowOf` and `leaseOf` say what they amount
to: the code of the open window with the number of wrong claims since it was opened, and
the lease with the time of its last renewal.
-/

namespace FluxPurr.Lan

open FluxPurr.Runs

inductive LanAction where
  | gate (nowMs : ℕ) (request : HttpRequest)
  | gateLightRead (request : HttpRequest)
  | pairingCodeFromRandom (random : ℕ)
  | leavePairing
  | setPairingMode (mode : LanPairingMode)
  | clearTokenFromUsb
  | takePersistedTokenChange
  | commandLeaseIsActive (nowMs : ℕ) (leaseId : LeaseId)

inductive LanEvent where
  | windowOpened (code : List UInt8)
  | windowClosed
  | claimed
  | claimFailed (submitted : String)
  | cleared
  | leaseCreated (id : LeaseId) (nowMs : ℕ)
  | leaseRenewed (id : LeaseId) (nowMs : ℕ)
  | leaseReleased (id : LeaseId)
deriving DecidableEq

/-- The code of the open window and the wrong claims since it was opened. -/
def windowStep (window : Option (List UInt8 × ℕ)) : LanEvent → Option (List UInt8 × ℕ)
  | .windowOpened code => some (code, 0)
  | .windowClosed => none
  | .claimFailed submitted =>
      window.map fun (code, wrong) =>
        (code, if asBytes submitted = code then wrong else wrong + 1)
  | _ => window

def windowOf (events : List LanEvent) : Option (List UInt8 × ℕ) := events.foldl windowStep none

/-- The lease and the time at which it was created or renewed last. -/
def leaseStep (lease : Option (LeaseId × ℕ)) : LanEvent → Option (LeaseId × ℕ)
  | .leaseCreated id nowMs => some (id, nowMs)
  | .leaseRenewed id nowMs => lease.map fun held => if held.1 = id then (id, nowMs) else held
  | .leaseReleased id => lease.filter fun held => held.1 ≠ id
  | .cleared => none
  | _ => lease

def leaseOf (events : List LanEvent) : Option (LeaseId × ℕ) := events.foldl leaseStep none

/-- The token was cleared and nothing has been claimed since then. -/
def clearedStep (cleared : Bool) : LanEvent → Bool
  | .cleared => true
  | .claimed => false
  | _ => cleared

def clearedIn (events : List LanEvent) : Bool := events.foldl clearedStep false

structure Session where
  state : NetHttpState
  history : List LanEvent := []
  /-- The time of the last call. -/
  clockMs : ℕ := 0

/-- A call of the claim endpoint. -/
def HttpRequest.isClaim (request : HttpRequest) : Bool :=
  request.method = .post ∧ endpointForPath request.path = some .pairingClaim

/-- The lease of a command that is passed on. -/
def acceptedLease : HttpGate → Option LeaseId
  | .respond _ => none
  | .dispatch command _ => command.leaseId

def LanAction.timeMs : LanAction → Option ℕ
  | .gate nowMs _ | .commandLeaseIsActive nowMs _ => some nowMs
  | _ => none

section

variable (pairingClaimCode : String → Option String)

namespace LanAction

/-- The state after an action. -/
def perform (state : NetHttpState) : LanAction → NetHttpState
  | gate nowMs request => (state.gate pairingClaimCode nowMs request).1
  | gateLightRead _ => state
  | pairingCodeFromRandom random => (state.pairingCodeFromRandom random).1
  | leavePairing => state.leavePairing
  | setPairingMode mode => state.setPairingMode mode
  | clearTokenFromUsb => state.clearTokenFromUsb
  | takePersistedTokenChange => state.takePersistedTokenChange.1
  | commandLeaseIsActive nowMs leaseId => (state.commandLeaseIsActive nowMs leaseId).1

end LanAction

/-- What an answer of the gate reports. -/
def answerEvents (nowMs : ℕ) (request : HttpRequest) : HttpBody → List LanEvent
  | .token _ => [.claimed]
  | .lease lease =>
      if request.method = .post then [.leaseCreated lease.id nowMs]
      else [.leaseRenewed lease.id nowMs]
  | .released => (request.leaseId.bind parseLeaseId).toList.map .leaseReleased
  | _ =>
      if request.isClaim then (pairingClaimCode request.body).toList.map .claimFailed else []

def gateEvents (nowMs : ℕ) (request : HttpRequest) : HttpGate → List LanEvent
  | .respond response => answerEvents pairingClaimCode nowMs request response.body
  | .dispatch _ _ => []

/-- The events of an action. -/
def eventsOf (state : NetHttpState) : LanAction → List LanEvent
  | .gate nowMs request =>
      gateEvents pairingClaimCode nowMs request (state.gate pairingClaimCode nowMs request).2
  | .pairingCodeFromRandom random =>
      match (state.pairingCodeFromRandom random).2 with
      | some code => [.windowOpened code]
      | none => [.windowClosed]
  | .leavePairing => [.windowClosed]
  | .setPairingMode mode => if mode ≠ .required then [.windowClosed] else []
  | .clearTokenFromUsb => [.cleared]
  | _ => []

namespace Session

variable (session : Session)

def apply (action : LanAction) : Session :=
  { state := action.perform pairingClaimCode session.state
    history := session.history ++ eventsOf pairingClaimCode session.state action
    clockMs := action.timeMs.getD session.clockMs }

/-- A step; `none` would turn the clock back. -/
def next (action : LanAction) : Option Session :=
  if action.timeMs.all (fun nowMs => session.clockMs ≤ nowMs) then
    some (session.apply pairingClaimCode action)
  else none

def Step (action : LanAction) (after : Session) : Prop :=
  session.next pairingClaimCode action = some after

/-- A session begins with or without a stored token. -/
def Starts : Prop := session.history = [] ∧ ∃ persistedToken, session.state = .new persistedToken

/-- The gate passes on a request under this lease. -/
def AcceptsLease (nowMs : ℕ) (id : LeaseId) : Prop :=
  session.clockMs ≤ nowMs ∧ ∃ request,
    acceptedLease (session.state.gate pairingClaimCode nowMs request).2 = some id

end Session

end

/-- Between two points of a run the lease was given up or ran out: it was released, the
token was cleared, or another lease was created 30 s after the last renewal. -/
def LeaseEnded (id : LeaseId) (earlier later : List LanEvent) : Prop :=
  ∃ before event after, later = earlier ++ before ++ event :: after ∧
    (event = .leaseReleased id ∨ event = .cleared ∨
      ∃ other nowMs renewedMs, event = .leaseCreated other nowMs ∧
        leaseOf (earlier ++ before) = some (id, renewedMs) ∧ renewedMs + lanLeaseTtlMs ≤ nowMs)

theorem LeaseEnded.append {id : LeaseId} {earlier later : List LanEvent}
    (h : LeaseEnded id earlier later) (events : List LanEvent) :
    LeaseEnded id earlier (later ++ events) := by
  obtain ⟨before, event, after, rfl, hevent⟩ := h
  refine ⟨before, event, after ++ events, ?_, hevent⟩
  rw [List.append_assoc, List.cons_append]

/-! ## The cases of a call -/

def HttpBody.isPlain : HttpBody → Bool
  | .token _ | .lease _ | .released => false
  | _ => true

/-- What a call of the gate does to the state and what it answers. -/
inductive GateCase (pairingClaimCode : String → Option String) (state : NetHttpState) (nowMs : ℕ)
    (request : HttpRequest) : NetHttpState → HttpGate → Prop
  | plain (response : HttpResponse) (hplain : response.body.isPlain = true)
      (hclaim : request.isClaim = false) :
      GateCase pairingClaimCode state nowMs request state (.respond response)
  | claim (hclaim : request.isClaim = true) :
      GateCase pairingClaimCode state nowMs request
        (state.claimPairing pairingClaimCode request).1
        (.respond (NetHttpState.withCors request.origin
          (state.claimPairing pairingClaimCode request).2))
  | lease (hauthorized : state.authorized request.authorization = true)
      (hclaim : request.isClaim = false) :
      GateCase pairingClaimCode state nowMs request (state.leaseRoute nowMs request).1
        (.respond (NetHttpState.withCors request.origin (state.leaseRoute nowMs request).2))
  | read (command : ControlMailboxCommand) (origin : Option String)
      (hauthorized : state.authorized request.authorization = true)
      (hread : isWrite request.method = false) (hleaseId : command.leaseId = none) :
      GateCase pairingClaimCode state nowMs request state (.dispatch command origin)
  | refused (response : HttpResponse) (hplain : response.body.isPlain = true)
      (hclaim : request.isClaim = false) :
      GateCase pairingClaimCode state nowMs request
        { state with leases := state.leases.expire nowMs } (.respond response)
  | write (command : ControlMailboxCommand) (origin : Option String) (id : LeaseId)
      (revision : ℕ) (lease : LanLease)
      (hauthorized : state.authorized request.authorization = true)
      (hwrite : isWrite request.method = true) (hleaseId : command.leaseId = some id)
      (hrevision : command.expectedRevision = some revision)
      (hlease : (state.leases.expire nowMs).lease = some lease) (hid : lease.id = id) :
      GateCase pairingClaimCode state nowMs request
        { state with leases := state.leases.expire nowMs } (.dispatch command origin)

end FluxPurr.Lan
