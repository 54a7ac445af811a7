import FluxPurr.Pd.SinkRuns

/-!
# The policy and a source

`Link` is the policy together with a source that handles its RDOs in order.  Both
directions are FIFO channels: RDOs to the source, answers to the policy.  An answer
has a type and a message identifier and says nothing about the RDO it belongs to; the
`ticket` that a message has here is only there to speak about it.

A capabilities message is sent and handled in one step, and only when no answer is in
flight, so that it does not overtake one.
-/

namespace FluxPurr.Pd

/-- An RDO in flight, with the contract it encodes. -/
structure SentRequest where
  ticket : ℕ
  rdo : Rdo
  contract : Contract
deriving DecidableEq

inductive Answer where
  | accept
  | psRdy
  | reject
  | wait
deriving DecidableEq, Repr

def Answer.messageType : Answer → UInt8
  | accept => SinkPolicy.accept
  | psRdy => SinkPolicy.psRdy
  | reject => SinkPolicy.reject
  | wait => SinkPolicy.wait

structure Reply where
  answer : Answer
  ticket : ℕ
  messageId : ℕ
deriving DecidableEq

/-- The identifier in the three bits that a header has for it. -/
def wireMessageId (messageId : ℕ) : UInt8 := UInt8.ofNat (messageId % 8)

structure Link where
  policy : SinkPolicy
  /-- RDOs in flight, the oldest first. -/
  requests : List SentRequest := []
  /-- Answers in flight, the oldest first. -/
  replies : List Reply := []
  /-- The accepted request that `PS_RDY` has still to be sent for. -/
  granting : Option SentRequest := none
  /-- The contract of the last request that the source has granted. -/
  granted : Option Contract := none
  /-- The next message identifier of the source. -/
  nextMessageId : ℕ
  /-- The number of RDOs that have been sent. -/
  tickets : ℕ := 0
  /-- The last RDO that asks for a new contract. -/
  asked : Option ℕ := none

inductive LinkAction where
  /-- The firmware does something with the policy. -/
  | sink (operation : SinkOperation)
  /-- The source offers capabilities; the firmware may know them as a refresh. -/
  | capabilities (pdos : List UInt32) (refresh : Bool)
  /-- The source grants the oldest RDO. -/
  | accept
  /-- The source declines the oldest RDO, by `Wait` or by `Reject`. -/
  | decline (wait : Bool)
  /-- The source completes what it has accepted. -/
  | psRdy
  /-- The oldest answer arrives. -/
  | deliver

/-- What the firmware does on its own: no message of the source and no loss of it. -/
def SinkOperation.isLocal : SinkOperation → Bool
  | .requestContract _ | .requestPpsVoltage _ | .requestAutomaticIdleFixedContract
  | .requestAutomaticIdlePpsStep _ | .requestFixedVoltage _ | .refreshActivePps
  | .preparePpsRequest _ | .prepareContractRefresh _ | .prepareAutomaticIdleRefresh
  | .setStandbyMinimumMv _ | .cancelPendingRequest => true
  | _ => false

namespace Link

variable (link : Link)

/-- A link begins with a new policy and a source that has sent nothing yet. -/
def Starts : Prop :=
  link.requests = [] ∧ link.replies = [] ∧ link.granting = none ∧ link.granted = none ∧
    link.asked = none ∧
    ∃ requestedMv preferredMa,
      link.policy = .new requestedMv preferredMa ∨ link.policy = .newStandby requestedMv preferredMa

/-- Nothing is in flight, and the source owes no `PS_RDY`. -/
def Quiet : Prop := link.requests = [] ∧ link.replies = [] ∧ link.granting = none

instance (link : Link) : Decidable link.Quiet :=
  inferInstanceAs (Decidable (_ ∧ _ ∧ _))

/-- The policy after an operation.  An RDO that it returned goes to the source. -/
def respond (response : Response) : Link :=
  match response.rdo with
  | none => { link with policy := response.policy }
  | some rdo =>
      { link with
        policy := response.policy
        requests := link.requests ++ [⟨link.tickets, rdo, response.policy.pendingContract⟩]
        tickets := link.tickets + 1
        asked := some link.tickets }

/-- A keepalive repeats the RDO of the confirmed contract. -/
def keepalive (rdo : Option Rdo) : Link :=
  match rdo with
  | none => link
  | some rdo =>
      { link with
        requests := link.requests ++ [⟨link.tickets, rdo, link.policy.activeContract⟩]
        tickets := link.tickets + 1 }

/-- An answer of the source is sent. -/
def reply (answer : Answer) (ticket : ℕ) : Link :=
  { link with
    replies := link.replies ++ [⟨answer, ticket, link.nextMessageId⟩]
    nextMessageId := link.nextMessageId + 1 }

def receive (policy : SinkPolicy) (reply : Reply) : SinkPolicy :=
  policy.onControlMessageWithMessageId reply.answer.messageType
    (some (wireMessageId reply.messageId))

/-- One step of the link; `none` is an action that is not possible. -/
def next : LinkAction → Option Link
  | .sink .refreshActivePps => some (link.keepalive link.policy.refreshActivePps)
  | .sink operation =>
      if operation.isLocal then some (link.respond (operation.perform link.policy)) else none
  | .capabilities pdos refresh =>
      if link.replies.isEmpty then
        let messageId := some (wireMessageId link.nextMessageId)
        let response :=
          if refresh then link.policy.refreshSourceCapabilitiesWithMessageId pdos messageId
          else link.policy.onSourceCapabilitiesWithMessageId pdos messageId
        some ({ link with nextMessageId := link.nextMessageId + 1 }.respond response)
      else none
  | .accept =>
      match link.granting, link.requests with
      | none, request :: requests =>
          some ({ link with
            requests := requests
            granting := some request
            granted := some request.contract }.reply .accept request.ticket)
      | _, _ => none
  | .decline wait =>
      match link.granting, link.requests with
      | none, request :: requests =>
          some ({ link with requests := requests }.reply
            (if wait then .wait else .reject) request.ticket)
      | _, _ => none
  | .psRdy =>
      link.granting.map fun request =>
        { link with granting := none }.reply .psRdy request.ticket
  | .deliver =>
      match link.replies with
      | [] => none
      | reply :: replies =>
          some { link with policy := receive link.policy reply, replies := replies }

/-- A step of the link, whatever the firmware does. -/
def Step (action : LinkAction) (after : Link) : Prop := link.next action = some after

/-- The active contract is the one that the source has granted last. -/
def Agrees : Prop :=
  link.policy.phase = .ready → link.Quiet → link.granted = some link.policy.activeContract

instance (link : Link) : Decidable link.Agrees :=
  inferInstanceAs (Decidable (_ → _ → _))

/-- What the firmware does one thing after another: a new RDO, or giving up a request,
waits until nothing is in flight, and a keepalive until the policy is ready. -/
def Allows : LinkAction → Prop
  | .sink .refreshActivePps => link.policy.phase = .ready
  | .sink .cancelPendingRequest => link.Quiet ∨ link.policy.phase = .ready
  | .sink operation => operation.isRequest → link.Quiet
  | .capabilities _ _ => link.Quiet
  | _ => True

/-- A step in which the firmware does one thing after another. -/
def SerialStep (action : LinkAction) (after : Link) : Prop :=
  link.Allows action ∧ link.next action = some after

end Link

end FluxPurr.Pd
