import FluxPurr.Pd.SourceLink

/-!
# Exchanges with a source

`Orderly` is the invariant of a link on which the firmware does one thing after
another: the message identifiers arrive without a gap, and the link is either settled
or in one exchange.

* `Settled`: what is in flight are keepalives, which repeat the active contract;
* `Exchange`: one request is in flight, and `Stage` says how far it has come.

An exchange ends in a settled link again, with the request granted and confirmed
(`Stage.arriving`) or declined (`Stage.declined`).
-/

namespace FluxPurr.Pd

/-! ## Message identifiers -/

theorem sourceMessageIdIsNewer_succ (last : ℕ) :
    sourceMessageIdIsNewer (wireMessageId last) (wireMessageId (last + 1)) = true := by
  have hdigits : ∀ digit < 8,
      sourceMessageIdIsNewer (UInt8.ofNat digit) (UInt8.ofNat ((digit + 1) % 8)) = true := by
    decide
  have hsucc : (last + 1) % 8 = (last % 8 + 1) % 8 := by omega
  unfold wireMessageId
  rw [hsucc]
  exact hdigits _ (Nat.mod_lt last (by decide))

theorem wireMessageId_and (messageId : ℕ) :
    wireMessageId messageId &&& 0x07 = wireMessageId messageId := by
  have hdigits : ∀ digit < 8, UInt8.ofNat digit &&& 0x07 = UInt8.ofNat digit := by decide
  exact hdigits _ (Nat.mod_lt messageId (by decide))

/-- The identifiers count from `first` on, and `last` is the one after them. -/
def Numbered : ℕ → List Reply → ℕ → Prop
  | first, [], last => first = last
  | first, reply :: replies, last => reply.messageId = first ∧ Numbered (first + 1) replies last

theorem Numbered.append {first last : ℕ} {replies : List Reply} (h : Numbered first replies last)
    {reply : Reply} (hreply : reply.messageId = last) :
    Numbered first (replies ++ [reply]) (last + 1) := by
  induction replies generalizing first with
  | nil =>
    obtain rfl : first = last := h
    exact ⟨hreply, rfl⟩
  | cons head replies ih => exact ⟨h.1, ih h.2⟩

/-- The policy has seen all identifiers before `first`. -/
def SeenUpTo (policy : SinkPolicy) (first : ℕ) : Prop :=
  policy.sourceMessageId = none ∨
    ∃ last, first = last + 1 ∧ policy.sourceMessageId = some (wireMessageId last)

/-- The answers in flight carry the identifiers that the policy has not seen yet. -/
def InOrder (link : Link) : Prop :=
  ∃ first, Numbered first link.replies link.nextMessageId ∧ SeenUpTo link.policy first

/-- A policy that has seen everything before takes over the next identifier. -/
theorem observe_of_seenUpTo {policy : SinkPolicy} {first : ℕ} (h : SeenUpTo policy first) :
    policy.observeSourceMessageId (some (wireMessageId first)) =
      some { policy with sourceMessageId := some (wireMessageId first) } := by
  have hfresh : policy.sourceCapabilitiesMessageIsFresh (some (wireMessageId first)) = true := by
    rcases h with hnone | ⟨last, rfl, hsome⟩
    · simp [SinkPolicy.sourceCapabilitiesMessageIsFresh, hnone]
    · simp [SinkPolicy.sourceCapabilitiesMessageIsFresh, hsome, sourceMessageIdIsNewer_succ]
  simp only [SinkPolicy.observeSourceMessageId, Option.map_some, wireMessageId_and, hfresh, if_true]

theorem seenUpTo_succ (policy : SinkPolicy) (first : ℕ)
    (h : policy.sourceMessageId = some (wireMessageId first)) : SeenUpTo policy (first + 1) :=
  Or.inr ⟨first, rfl, h⟩

/-! ## What the policy asks for -/

/-- A response to something the firmware wants: no RDO and at most a policy that waits
in vain, or an RDO for the pending contract. -/
inductive Asks (policy : SinkPolicy) (response : Response) : Prop
  | nothing (hrdo : response.rdo = none)
      (hphase : response.policy.phase = policy.phase ∨ response.policy.phase = .waitingForAccept)
      (hactive : response.policy.activeContract = policy.activeContract)
      (hmessageId : response.policy.sourceMessageId = policy.sourceMessageId)
  | contract (rdo : Rdo) (hrdo : response.rdo = some rdo)
      (hphase : response.policy.phase = .waitingForAccept)
      (hpending : response.policy.pendingContract ≠ .none)
      (hactive : response.policy.activeContract = policy.activeContract)
      (hmessageId : response.policy.sourceMessageId = policy.sourceMessageId)

namespace Asks

variable {policy failed prepared : SinkPolicy}

theorem idle (policy : SinkPolicy) : Asks policy ⟨policy, none⟩ := .nothing rfl (Or.inl rfl) rfl rfl

theorem sendRequest (hphase : failed.phase = policy.phase)
    (hfailed : failed.activeContract = policy.activeContract)
    (hfailedId : failed.sourceMessageId = policy.sourceMessageId)
    (hprepared : prepared.activeContract = policy.activeContract)
    (hpreparedId : prepared.sourceMessageId = policy.sourceMessageId) (contract : Contract) :
    Asks policy (SinkPolicy.sendRequest failed prepared contract) := by
  unfold SinkPolicy.sendRequest
  cases hrdo : requestDataObject contract with
  | none => exact .nothing rfl (Or.inl hphase) hfailed hfailedId
  | some rdo =>
    exact .contract rdo rfl rfl (ne_none_of_requestDataObject hrdo) hprepared hpreparedId

theorem beginRequest (policy : SinkPolicy) (capabilities : SourceCapabilities) :
    Asks policy (policy.beginRequest capabilities) := by
  unfold SinkPolicy.beginRequest
  cases policy.beginTarget capabilities with
  | none => exact idle policy
  | some contract => exact sendRequest rfl rfl rfl rfl rfl contract

theorem requestContract (policy : SinkPolicy) (request : PdContractRequest) :
    Asks policy (policy.requestContract request) := by
  unfold SinkPolicy.requestContract
  split_ifs
  · cases policy.sourceCapabilities.selectExactContract request with
    | none => exact idle policy
    | some contract => refine sendRequest ?_ ?_ ?_ ?_ ?_ contract <;> rfl
  · exact idle policy

theorem requestPpsVoltage (policy : SinkPolicy) (requestedMv : ℕ) :
    Asks policy (policy.requestPpsVoltage requestedMv) := by
  unfold SinkPolicy.requestPpsVoltage
  cases policy.selectPpsContract requestedMv with
  | none => exact idle policy
  | some contract => refine sendRequest ?_ ?_ ?_ ?_ ?_ contract <;> rfl

theorem requestFixedVoltage (policy : SinkPolicy) (requestedMv : ℕ) :
    Asks policy (policy.requestFixedVoltage requestedMv) := by
  unfold SinkPolicy.requestFixedVoltage
  split_ifs
  · cases policy.sourceCapabilities.selectFusb302bFixedContract requestedMv
        policy.preferredMa with
    | none => exact idle policy
    | some contract => refine sendRequest ?_ ?_ ?_ ?_ ?_ contract <;> rfl
  · exact idle policy

theorem requestAutomaticIdleFixedContract (policy : SinkPolicy) :
    Asks policy policy.requestAutomaticIdleFixedContract := by
  unfold SinkPolicy.requestAutomaticIdleFixedContract
  split_ifs
  · cases beginRequest policy.prepareAutomaticIdleRefresh policy.sourceCapabilities with
    | nothing hrdo hphase hactive hmessageId => exact .nothing hrdo hphase hactive hmessageId
    | contract rdo hrdo hphase hpending hactive hmessageId =>
      exact .contract rdo hrdo hphase hpending hactive hmessageId
  · exact idle policy

theorem requestAutomaticIdlePpsStep (policy : SinkPolicy) (requestedMv : ℕ) :
    Asks policy (policy.requestAutomaticIdlePpsStep requestedMv) := by
  unfold SinkPolicy.requestAutomaticIdlePpsStep
  split_ifs
  · cases policy.sourceCapabilities.selectFusb302bStandbyPpsStep policy.activeContract
        requestedMv with
    | none => exact idle policy
    | some contract =>
      cases hrdo : requestDataObject contract with
      | none => exact .nothing hrdo (Or.inr rfl) rfl rfl
      | some rdo => exact .contract rdo hrdo rfl (ne_none_of_requestDataObject hrdo) rfl rfl
  · exact idle policy

theorem of_isRequest (policy : SinkPolicy) {operation : SinkOperation}
    (h : operation.isRequest = true) : Asks policy (operation.perform policy) := by
  cases operation with
  | requestContract request => exact requestContract policy request
  | requestPpsVoltage requestedMv => exact requestPpsVoltage policy requestedMv
  | requestAutomaticIdleFixedContract => exact requestAutomaticIdleFixedContract policy
  | requestAutomaticIdlePpsStep requestedMv => exact requestAutomaticIdlePpsStep policy requestedMv
  | requestFixedVoltage requestedMv => exact requestFixedVoltage policy requestedMv
  | _ => cases h

end Asks

/-! ## The invariant -/

structure Settled (link : Link) : Prop where
  phase : link.policy.phase ≠ .waitingForPsRdy
  busy : link.Quiet ∨ link.policy.phase = .ready
  ready : link.policy.phase = .ready → link.policy.activeContract ≠ .none
  granted : link.policy.activeContract ≠ .none →
    link.granted = some link.policy.activeContract
  requests : ∀ request ∈ link.requests, request.contract = link.policy.activeContract

/-- How far the one request in flight has come. -/
inductive Stage (link : Link) (request : SentRequest) : Prop
  | sent (hphase : link.policy.phase = .waitingForAccept) (hrequests : link.requests = [request])
      (hreplies : link.replies = []) (hgranting : link.granting = none)
      (hgranted : link.policy.activeContract ≠ .none →
        link.granted = some link.policy.activeContract)
  | accepted (messageId : ℕ) (hphase : link.policy.phase = .waitingForAccept)
      (hrequests : link.requests = [])
      (hreplies : link.replies = [⟨.accept, request.ticket, messageId⟩])
      (hgranting : link.granting = some request) (hgranted : link.granted = some request.contract)
  | completed (messageId messageId' : ℕ) (hphase : link.policy.phase = .waitingForAccept)
      (hrequests : link.requests = [])
      (hreplies : link.replies =
        [⟨.accept, request.ticket, messageId⟩, ⟨.psRdy, request.ticket, messageId'⟩])
      (hgranting : link.granting = none) (hgranted : link.granted = some request.contract)
  | expecting (hphase : link.policy.phase = .waitingForPsRdy) (hrequests : link.requests = [])
      (hreplies : link.replies = []) (hgranting : link.granting = some request)
      (hgranted : link.granted = some request.contract)
  | arriving (messageId : ℕ) (hphase : link.policy.phase = .waitingForPsRdy)
      (hrequests : link.requests = [])
      (hreplies : link.replies = [⟨.psRdy, request.ticket, messageId⟩])
      (hgranting : link.granting = none) (hgranted : link.granted = some request.contract)
  | declined (answer : Answer) (messageId : ℕ) (hanswer : answer = .reject ∨ answer = .wait)
      (hphase : link.policy.phase = .waitingForAccept) (hrequests : link.requests = [])
      (hreplies : link.replies = [⟨answer, request.ticket, messageId⟩])
      (hgranting : link.granting = none)
      (hgranted : link.policy.activeContract ≠ .none →
        link.granted = some link.policy.activeContract)

/-- One request is in flight, and it is the one that the policy waits for. -/
structure Exchange (link : Link) (request : SentRequest) : Prop where
  asked : link.asked = some request.ticket
  contract : link.policy.pendingContract = request.contract
  pending : link.policy.pendingContract ≠ .none
  stage : Stage link request

structure Orderly (link : Link) : Prop where
  inOrder : InOrder link
  situation : Settled link ∨ ∃ request, Exchange link request

variable {link : Link} {request : SentRequest}

namespace Exchange

theorem not_quiet (h : Exchange link request) : ¬ link.Quiet := by
  rintro ⟨hrequests, hreplies, hgranting⟩
  cases h.stage with
  | sent hphase hsent =>
    rw [hrequests] at hsent
    cases hsent
  | expecting hphase hempty hnone hsome =>
    rw [hgranting] at hsome
    cases hsome
  | accepted _ _ _ hsent | completed _ _ _ _ hsent | arriving _ _ _ hsent
  | declined _ _ _ _ _ hsent =>
    rw [hreplies] at hsent
    cases hsent

theorem waiting (h : Exchange link request) :
    link.policy.phase = .waitingForAccept ∨ link.policy.phase = .waitingForPsRdy := by
  cases h.stage with
  | expecting hphase | arriving _ hphase => exact Or.inr hphase
  | sent hphase | accepted _ hphase | completed _ _ hphase | declined _ _ _ hphase =>
    exact Or.inl hphase

theorem not_ready (h : Exchange link request) : link.policy.phase ≠ .ready := by
  intro hready
  rcases h.waiting with hphase | hphase <;>
  · rw [hready] at hphase
    cases hphase

/-- A request in flight is the one that the exchange is about. -/
theorem of_requests {asked : SentRequest} {requests : List SentRequest} (h : Exchange link asked)
    (hrequests : link.requests = request :: requests) :
    asked = request ∧ requests = [] ∧ link.policy.phase = .waitingForAccept ∧ link.replies = [] ∧
      (link.policy.activeContract ≠ .none → link.granted = some link.policy.activeContract) := by
  cases h.stage with
  | sent hphase hsent hreplies hnone hgranted =>
    rw [hrequests] at hsent
    obtain ⟨rfl, rfl⟩ := List.cons_eq_cons.mp hsent
    exact ⟨rfl, rfl, hphase, hreplies, hgranted⟩
  | accepted _ _ hempty | completed _ _ _ hempty | expecting _ hempty | arriving _ _ hempty
  | declined _ _ _ _ hempty =>
    rw [hrequests] at hempty
    cases hempty

end Exchange

/-- A quiet link is settled while the policy waits for the source. -/
theorem Settled.of_quiet {policy : SinkPolicy} (hquiet : link.Quiet)
    (hwaits : policy.phase = .waitingForSourceCapabilities ∨ policy.phase = .waitingForAccept)
    (hgranted : policy.activeContract ≠ .none → link.granted = some policy.activeContract) :
    Settled { link with policy := policy } where
  phase := by
    rcases hwaits with hphase | hphase <;>
    · rw [hphase]
      nofun
  busy := Or.inl hquiet
  ready hready := by
    rcases hwaits with hphase | hphase <;>
    · rw [hphase] at hready
      cases hready
  granted := hgranted
  requests := by
    rw [hquiet.1]
    nofun

theorem Orderly.settled_of_quiet (h : Orderly link) (hquiet : link.Quiet) : Settled link := by
  rcases h.situation with hsettled | ⟨request, hexchange⟩
  · exact hsettled
  · exact absurd hquiet hexchange.not_quiet

theorem Orderly.settled_of_ready (h : Orderly link) (hready : link.policy.phase = .ready) :
    Settled link := by
  rcases h.situation with hsettled | ⟨request, hexchange⟩
  · exact hsettled
  · exact absurd hready hexchange.not_ready

theorem orderly_of_starts (h : link.Starts) : Orderly link := by
  obtain ⟨hrequests, hreplies, hgranting, -, -, requestedMv, preferredMa, hpolicy⟩ := h
  obtain ⟨hphase, hactive, hmessageId⟩ :
      link.policy.phase = .waitingForSourceCapabilities ∧ link.policy.activeContract = .none ∧
        link.policy.sourceMessageId = none := by
    rcases hpolicy with hpolicy | hpolicy
    · rw [hpolicy]
      exact ⟨rfl, rfl, rfl⟩
    · rw [hpolicy]
      exact ⟨rfl, rfl, rfl⟩
  refine ⟨⟨link.nextMessageId, ?_, Or.inl hmessageId⟩, Or.inl ?_⟩
  · rw [hreplies]
    exact rfl
  · exact .of_quiet ⟨hrequests, hreplies, hgranting⟩ (Or.inl hphase)
      fun hconfirmed => absurd hactive hconfirmed

/-! ## Steps of the firmware -/

/-- The parts of a policy that the link is about. -/
def SameExchange (left right : SinkPolicy) : Prop :=
  left.phase = right.phase ∧ left.pendingContract = right.pendingContract ∧
    left.activeContract = right.activeContract ∧ left.sourceMessageId = right.sourceMessageId

theorem Stage.congr {policy : SinkPolicy} (h : Stage link request)
    (hphase : policy.phase = link.policy.phase)
    (hactive : policy.activeContract = link.policy.activeContract) :
    Stage { link with policy := policy } request := by
  cases h with
  | sent hwaiting hrequests hreplies hgranting hgranted =>
    exact .sent (hphase.trans hwaiting) hrequests hreplies hgranting
      (by rw [hactive]; exact hgranted)
  | accepted messageId hwaiting hrequests hreplies hgranting hgranted =>
    exact .accepted messageId (hphase.trans hwaiting) hrequests hreplies hgranting hgranted
  | completed messageId messageId' hwaiting hrequests hreplies hgranting hgranted =>
    exact .completed messageId messageId' (hphase.trans hwaiting) hrequests hreplies hgranting
      hgranted
  | expecting hwaiting hrequests hreplies hgranting hgranted =>
    exact .expecting (hphase.trans hwaiting) hrequests hreplies hgranting hgranted
  | arriving messageId hwaiting hrequests hreplies hgranting hgranted =>
    exact .arriving messageId (hphase.trans hwaiting) hrequests hreplies hgranting hgranted
  | declined answer messageId hanswer hwaiting hrequests hreplies hgranting hgranted =>
    exact .declined answer messageId hanswer (hphase.trans hwaiting) hrequests hreplies hgranting
      (by rw [hactive]; exact hgranted)

theorem Settled.congr {policy : SinkPolicy} (h : Settled link)
    (hphase : policy.phase = link.policy.phase)
    (hactive : policy.activeContract = link.policy.activeContract) :
    Settled { link with policy := policy } :=
  { phase := by
      rw [hphase]
      exact h.phase
    busy := by
      rw [hphase]
      exact h.busy
    ready := by
      rw [hphase, hactive]
      exact h.ready
    granted := by
      rw [hactive]
      exact h.granted
    requests := by
      rw [hactive]
      exact h.requests }

theorem Orderly.congr {policy : SinkPolicy} (h : Orderly link)
    (hsame : SameExchange policy link.policy) : Orderly { link with policy := policy } := by
  obtain ⟨hphase, hpending, hactive, hmessageId⟩ := hsame
  obtain ⟨⟨first, hnumbered, hseen⟩, hsituation⟩ := h
  refine ⟨⟨first, hnumbered, ?_⟩, ?_⟩
  · unfold SeenUpTo
    rw [hmessageId]
    exact hseen
  · rcases hsituation with hsettled | ⟨request, hexchange⟩
    · exact Or.inl (hsettled.congr hphase hactive)
    · exact Or.inr
        ⟨request,
          { asked := hexchange.asked
            contract := hpending.trans hexchange.contract
            pending := by
              rw [hpending]
              exact hexchange.pending
            stage := hexchange.stage.congr hphase hactive }⟩

theorem Orderly.respond (h : Orderly link) (hquiet : link.Quiet) {response : Response}
    (hasks : Asks link.policy response) : Orderly (link.respond response) := by
  have hsettled := h.settled_of_quiet hquiet
  obtain ⟨first, hnumbered, hseen⟩ := h.inOrder
  obtain ⟨hrequests, hreplies, hgranting⟩ := hquiet
  cases hasks with
  | nothing hrdo hphase hactive hmessageId =>
    have hrespond : link.respond response = { link with policy := response.policy } := by
      rw [Link.respond, hrdo]
    rw [hrespond]
    refine ⟨⟨first, hnumbered, ?_⟩, Or.inl ?_⟩
    · unfold SeenUpTo
      rw [hmessageId]
      exact hseen
    · rcases hphase with hphase | hphase
      · exact hsettled.congr hphase hactive
      · -- the policy waits although nothing was sent
        refine .of_quiet ⟨hrequests, hreplies, hgranting⟩ (Or.inr hphase) ?_
        rw [hactive]
        exact hsettled.granted
  | contract rdo hrdo hphase hpending hactive hmessageId =>
    have hrespond : link.respond response =
        { link with
          policy := response.policy
          requests := link.requests ++ [⟨link.tickets, rdo, response.policy.pendingContract⟩]
          tickets := link.tickets + 1
          asked := some link.tickets } := by
      rw [Link.respond, hrdo]
    rw [hrespond]
    refine ⟨⟨first, hnumbered, ?_⟩,
      Or.inr ⟨⟨link.tickets, rdo, response.policy.pendingContract⟩, rfl, rfl, hpending, ?_⟩⟩
    · unfold SeenUpTo
      rw [hmessageId]
      exact hseen
    · refine .sent hphase ?_ hreplies hgranting ?_
      · rw [hrequests]
        rfl
      · rw [hactive]
        exact hsettled.granted

theorem Settled.cancel (h : Settled link) :
    Settled { link with policy := link.policy.cancelPendingRequest } := by
  have hphase : link.policy.cancelPendingRequest.phase =
      if link.policy.activeContract = .none then .waitingForSourceCapabilities else .ready := rfl
  exact
    { phase := by
        rw [hphase]
        split_ifs <;> nofun
      busy := by
        rcases h.busy with hquiet | hready
        · exact Or.inl hquiet
        · exact Or.inr (hphase.trans (if_neg (h.ready hready)))
      ready := by
        rw [hphase]
        intro hready (hnone : link.policy.activeContract = .none)
        rw [if_pos hnone] at hready
        cases hready
      granted := h.granted
      requests := h.requests }

theorem Orderly.cancel (h : Orderly link) (hsettled : Settled link) :
    Orderly { link with policy := link.policy.cancelPendingRequest } :=
  ⟨h.inOrder, Or.inl hsettled.cancel⟩

theorem Orderly.keepalive (h : Orderly link) (hready : link.policy.phase = .ready)
    (rdo : Option Rdo) : Orderly (link.keepalive rdo) := by
  have hsettled := h.settled_of_ready hready
  cases rdo with
  | none => exact h
  | some rdo =>
    refine ⟨h.inOrder, Or.inl ?_⟩
    exact
      { hsettled with
        busy := Or.inr hready
        requests := by
          intro request hrequest
          rcases List.mem_append.mp hrequest with hold | hnew
          · exact hsettled.requests request hold
          · obtain rfl := List.mem_singleton.mp hnew
            rfl }

theorem Orderly.sink (h : Orderly link) {operation : SinkOperation}
    (hlocal : operation.isLocal = true) (hallows : link.Allows (.sink operation))
    (hkeepalive : operation ≠ .refreshActivePps) :
    Orderly (link.respond (operation.perform link.policy)) := by
  cases operation with
  | requestContract request | requestPpsVoltage requestedMv | requestAutomaticIdleFixedContract
  | requestAutomaticIdlePpsStep requestedMv | requestFixedVoltage requestedMv =>
    exact h.respond (hallows rfl) (.of_isRequest _ rfl)
  | preparePpsRequest requestedMv =>
    refine h.congr ?_
    simp only [SinkOperation.perform, SinkPolicy.preparePpsRequest]
    split_ifs <;> exact ⟨rfl, rfl, rfl, rfl⟩
  | prepareContractRefresh request | prepareAutomaticIdleRefresh | setStandbyMinimumMv minimumMv =>
    exact h.congr ⟨rfl, rfl, rfl, rfl⟩
  | cancelPendingRequest =>
    rcases hallows with hquiet | hready
    · exact h.cancel (h.settled_of_quiet hquiet)
    · exact h.cancel (h.settled_of_ready hready)
  | refreshActivePps => exact absurd rfl hkeepalive
  | _ => cases hlocal

/-! ## Capabilities -/

theorem Orderly.keepOrRequest (h : Orderly link) (hquiet : link.Quiet) :
    Orderly (link.respond link.policy.keepOrRequest) := by
  unfold SinkPolicy.keepOrRequest
  split_ifs with hready hsupports
  · have hkept : Asks link.policy ⟨{ link.policy with pendingContract := .none }, none⟩ :=
      .nothing rfl (Or.inl rfl) rfl rfl
    exact h.respond hquiet hkept
  · -- the contract is dropped, and the source may be asked for another one
    have hdropped : Orderly
        { link with
          policy :=
            { link.policy with
              activeContract := .none
              pendingContract := .none
              phase := .waitingForSourceCapabilities } } :=
      ⟨h.inOrder, Or.inl (.of_quiet hquiet (Or.inl rfl) fun hconfirmed => absurd rfl hconfirmed)⟩
    exact hdropped.respond hquiet (.beginRequest _ _)
  · exact h.respond hquiet (.beginRequest _ _)

/-- A link whose policy has taken over a capabilities message. -/
theorem Orderly.stored (h : Orderly link) (hquiet : link.Quiet) (pdos : List UInt32) :
    Orderly
      { link with
        policy := { link.policy with
          sourceMessageId := some (wireMessageId link.nextMessageId) }.storeCapabilities pdos
        nextMessageId := link.nextMessageId + 1 } := by
  have hsettled := h.settled_of_quiet hquiet
  refine ⟨⟨link.nextMessageId + 1, ?_, seenUpTo_succ _ link.nextMessageId rfl⟩, Or.inl ?_⟩
  · rw [hquiet.2.1]
    exact rfl
  · exact { hsettled with }

theorem Orderly.observe (h : Orderly link) (hquiet : link.Quiet) :
    link.policy.observeSourceMessageId
        ((some (wireMessageId link.nextMessageId)).map (· &&& 0x07)) =
      some { link.policy with sourceMessageId := some (wireMessageId link.nextMessageId) } := by
  obtain ⟨first, hnumbered, hseen⟩ := h.inOrder
  rw [hquiet.2.1] at hnumbered
  obtain rfl : first = link.nextMessageId := hnumbered
  rw [Option.map_some, wireMessageId_and]
  exact observe_of_seenUpTo hseen

theorem Orderly.capabilities (h : Orderly link) (hquiet : link.Quiet) (pdos : List UInt32)
    (refresh : Bool) :
    Orderly ({ link with nextMessageId := link.nextMessageId + 1 }.respond
      (if refresh then
        link.policy.refreshSourceCapabilitiesWithMessageId pdos
          (some (wireMessageId link.nextMessageId))
      else
        link.policy.onSourceCapabilitiesWithMessageId pdos
          (some (wireMessageId link.nextMessageId)))) := by
  have hstored := h.stored hquiet pdos
  cases refresh with
  | false =>
    simp only [Bool.false_eq_true, if_false, SinkPolicy.onSourceCapabilitiesWithMessageId,
      h.observe hquiet]
    exact hstored.respond hquiet (.beginRequest _ _)
  | true =>
    simp only [if_true, SinkPolicy.refreshSourceCapabilitiesWithMessageId, h.observe hquiet]
    exact hstored.keepOrRequest hquiet

/-! ## Steps of the source -/

theorem InOrder.reply (h : InOrder link) (answer : Answer) (ticket : ℕ) :
    InOrder (link.reply answer ticket) := by
  obtain ⟨first, hnumbered, hseen⟩ := h
  exact ⟨first, hnumbered.append rfl, hseen⟩

theorem Settled.ready_of_requests (h : Settled link) {requests : List SentRequest}
    (hrequests : link.requests = request :: requests) : link.policy.phase = .ready := by
  rcases h.busy with hquiet | hready
  · rw [hquiet.1] at hrequests
    cases hrequests
  · exact hready

theorem Orderly.accept (h : Orderly link) {requests : List SentRequest}
    (hrequests : link.requests = request :: requests) :
    Orderly ({ link with
      requests := requests
      granting := some request
      granted := some request.contract }.reply .accept request.ticket) := by
  refine ⟨InOrder.reply h.inOrder .accept request.ticket, ?_⟩
  rcases h.situation with hsettled | ⟨asked, hexchange⟩
  · refine Or.inl ?_
    have hcontract := hsettled.requests request (hrequests ▸ List.mem_cons_self)
    exact
      { hsettled with
        busy := Or.inr (hsettled.ready_of_requests hrequests)
        granted := fun _ => congrArg some hcontract
        requests := fun other hother =>
          hsettled.requests other (hrequests ▸ List.mem_cons_of_mem request hother) }
  · refine Or.inr ⟨asked, hexchange.asked, hexchange.contract, hexchange.pending, ?_⟩
    obtain ⟨rfl, rfl, hphase, hreplies, -⟩ := hexchange.of_requests hrequests
    refine .accepted link.nextMessageId hphase rfl ?_ rfl rfl
    simp only [Link.reply, hreplies, List.nil_append]

theorem Orderly.decline (h : Orderly link) {requests : List SentRequest} {answer : Answer}
    (hanswer : answer = .reject ∨ answer = .wait) (hgranting : link.granting = none)
    (hrequests : link.requests = request :: requests) :
    Orderly ({ link with requests := requests }.reply answer request.ticket) := by
  refine ⟨InOrder.reply h.inOrder answer request.ticket, ?_⟩
  rcases h.situation with hsettled | ⟨asked, hexchange⟩
  · refine Or.inl ?_
    exact
      { hsettled with
        busy := Or.inr (hsettled.ready_of_requests hrequests)
        requests := fun other hother =>
          hsettled.requests other (hrequests ▸ List.mem_cons_of_mem request hother) }
  · refine Or.inr ⟨asked, hexchange.asked, hexchange.contract, hexchange.pending, ?_⟩
    obtain ⟨rfl, rfl, hphase, hreplies, hgranted⟩ := hexchange.of_requests hrequests
    refine .declined answer link.nextMessageId hanswer hphase rfl ?_ hgranting hgranted
    simp only [Link.reply, hreplies, List.nil_append]

theorem Orderly.psRdy (h : Orderly link) (hgranting : link.granting = some request) :
    Orderly ({ link with granting := none }.reply .psRdy request.ticket) := by
  refine ⟨InOrder.reply h.inOrder .psRdy request.ticket, ?_⟩
  rcases h.situation with hsettled | ⟨asked, hexchange⟩
  · refine Or.inl ?_
    have hready : link.policy.phase = .ready := by
      rcases hsettled.busy with hquiet | hready
      · rw [hquiet.2.2] at hgranting
        cases hgranting
      · exact hready
    exact { hsettled with busy := Or.inr hready }
  · refine Or.inr ⟨asked, hexchange.asked, hexchange.contract, hexchange.pending, ?_⟩
    cases hexchange.stage with
    | accepted messageId hphase hempty hreplies hsome hgranted =>
      obtain rfl : asked = request := Option.some.inj (hsome.symm.trans hgranting)
      refine .completed messageId link.nextMessageId hphase hempty ?_ rfl hgranted
      simp only [Link.reply, hreplies, List.singleton_append]
    | expecting hphase hempty hreplies hsome hgranted =>
      obtain rfl : asked = request := Option.some.inj (hsome.symm.trans hgranting)
      refine .arriving link.nextMessageId hphase hempty ?_ rfl hgranted
      simp only [Link.reply, hreplies, List.nil_append]
    | sent hphase hempty hreplies hnone
    | completed messageId messageId' hphase hempty hreplies hnone
    | arriving messageId hphase hempty hreplies hnone
    | declined answer messageId hanswer hphase hempty hreplies hnone =>
      rw [hgranting] at hnone
      cases hnone

end FluxPurr.Pd
