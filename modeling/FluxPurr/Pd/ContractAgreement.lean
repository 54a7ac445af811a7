import FluxPurr.Pd.Exchange

/-!
# Agreement on the contract

The remaining step is the arrival of an answer: it leaves a settled link settled, and
it takes an exchange one stage further or ends it.  With that every step of a firmware
that does one thing after another keeps the link orderly (`Orderly.next`), and an
orderly link agrees on the contract.

Requests that overlap are another matter: the answers to the first one are taken for
answers to the second one (`not_all_runs_agree`).
-/

namespace FluxPurr.Pd

open FluxPurr.Runs

variable {link : Link} {request : SentRequest}

/-! ## An answer arrives -/

namespace SinkPolicy

variable {policy : SinkPolicy}

theorem onAnswer_accept (h : policy.phase = .waitingForAccept) :
    policy.onAnswer accept = { policy with phase := .waitingForPsRdy } := if_pos ⟨h, rfl⟩

theorem onAnswer_psRdy (h : policy.phase = .waitingForPsRdy) : policy.onAnswer psRdy = { policy with
        activeContract := policy.pendingContract
        pendingContract := .none
        phase := .ready } := by
  unfold onAnswer
  rw [if_neg (fun haccept => by rw [h] at haccept; cases haccept.1), if_pos ⟨h, rfl⟩]

theorem onAnswer_declined {answer : Answer} (hanswer : answer = .reject ∨ answer = .wait) :
    policy.onAnswer answer.messageType = policy.cancelPendingRequest := by
  unfold onAnswer
  rcases hanswer with rfl | rfl
  all_goals
    rw [if_neg (fun haccept => by cases haccept.2), if_neg (fun hpsRdy => by cases hpsRdy.2)]
    rfl

theorem onAnswer_ready (h : policy.phase = .ready) (answer : Answer) :
    policy.onAnswer answer.messageType = policy ∨
      policy.onAnswer answer.messageType = policy.cancelPendingRequest := by
  unfold onAnswer
  rw [if_neg (fun haccept => by rw [h] at haccept; cases haccept.1),
    if_neg (fun hpsRdy => by rw [h] at hpsRdy; cases hpsRdy.1)]
  split_ifs
  · exact Or.inr rfl
  · exact Or.inl rfl

theorem sourceMessageId_onAnswer (policy : SinkPolicy) (messageType : UInt8) :
    (policy.onAnswer messageType).sourceMessageId = policy.sourceMessageId := by
  unfold onAnswer
  split_ifs <;> rfl

end SinkPolicy

open SinkPolicy

theorem receive_eq {policy : SinkPolicy} {reply : Reply} (hseen : SeenUpTo policy reply.messageId)
    (hlistens : policy.listens = true) :
    Link.receive policy reply =
      { policy with sourceMessageId := some (wireMessageId reply.messageId) }.onAnswer
        reply.answer.messageType := by
  have hgoodCrc : reply.answer.messageType ≠ goodCrc := by
    cases reply.answer <;> decide
  unfold Link.receive onControlMessageWithMessageId
  rw [if_neg (not_not.mpr hlistens), if_neg hgoodCrc, observe_of_seenUpTo hseen]

theorem Orderly.listens (h : Orderly link) (hreplies : link.replies ≠ []) :
    link.policy.listens = true := by
  unfold SinkPolicy.listens
  rcases h.situation with hsettled | ⟨request, hexchange⟩
  · rcases hsettled.busy with hquiet | hready
    · exact absurd hquiet.2.1 hreplies
    · exact decide_eq_true (Or.inr (Or.inr hready))
  · rcases hexchange.waiting with hphase | hphase
    · exact decide_eq_true (Or.inl hphase)
    · exact decide_eq_true (Or.inr (Or.inl hphase))

theorem Settled.arrive (h : Settled link) (hready : link.policy.phase = .ready)
    (replies : List Reply) (messageId : Option UInt8) (answer : Answer) :
    Settled
      { link with
        policy := { link.policy with sourceMessageId := messageId }.onAnswer answer.messageType
        replies := replies } := by
  have hsettled : Settled
      { link with
        policy := { link.policy with sourceMessageId := messageId }
        replies := replies } :=
    { h with busy := Or.inr hready }
  have hobserved : ({ link.policy with sourceMessageId := messageId } : SinkPolicy).phase =
      .ready := hready
  rcases onAnswer_ready hobserved answer with hsame | hcancel
  · rw [hsame]
    exact hsettled
  · rw [hcancel]
    exact hsettled.cancel

theorem Exchange.arrive (h : Exchange link request) {reply : Reply} {replies : List Reply}
    (hreplies : link.replies = reply :: replies) (messageId : Option UInt8) :
    Settled
        { link with
          policy :=
            { link.policy with sourceMessageId := messageId }.onAnswer reply.answer.messageType
          replies := replies } ∨
      Exchange
        { link with
          policy :=
            { link.policy with sourceMessageId := messageId }.onAnswer reply.answer.messageType
          replies := replies } request := by
  let observed : SinkPolicy := { link.policy with sourceMessageId := messageId }
  -- an accepted request stays the one that the policy waits for
  have haccept (hphase : link.policy.phase = .waitingForAccept)
      (hstage : ({ observed with phase := .waitingForPsRdy } : SinkPolicy).phase =
          .waitingForPsRdy →
        Stage
          { link with
            policy := { observed with phase := .waitingForPsRdy }
            replies := replies } request) :
      Exchange
        { link with
          policy := observed.onAnswer accept
          replies := replies } request := by
    have hanswer : observed.onAnswer accept =
        { observed with phase := .waitingForPsRdy } := onAnswer_accept hphase
    rw [hanswer]
    exact ⟨h.asked, h.contract, h.pending, hstage rfl⟩
  cases h.stage with
  | sent hphase hrequests hempty | expecting hphase hrequests hempty =>
    rw [hreplies] at hempty
    cases hempty
  | accepted id hphase hrequests hsent hgranting hgranted =>
    rw [hreplies] at hsent
    obtain ⟨rfl, rfl⟩ := List.cons_eq_cons.mp hsent
    exact Or.inr (haccept hphase fun hexpects => .expecting hexpects hrequests rfl hgranting hgranted)
  | completed id id' hphase hrequests hsent hgranting hgranted =>
    rw [hreplies] at hsent
    obtain ⟨rfl, rfl⟩ := List.cons_eq_cons.mp hsent
    exact Or.inr (haccept hphase fun hexpects =>
      .arriving id' hexpects hrequests rfl hgranting hgranted)
  | arriving id hphase hrequests hsent hgranting hgranted =>
    -- the request is confirmed, and it is the one that was granted
    rw [hreplies] at hsent
    obtain ⟨rfl, rfl⟩ := List.cons_eq_cons.mp hsent
    have hanswer : observed.onAnswer psRdy =
        { observed with
          activeContract := observed.pendingContract
          pendingContract := .none
          phase := .ready } := onAnswer_psRdy hphase
    show Settled { link with policy := observed.onAnswer psRdy, replies := _ } ∨ _
    rw [hanswer]
    exact Or.inl
      { phase := nofun
        busy := Or.inr rfl
        ready := fun _ hnone => h.pending hnone
        granted := fun _ => hgranted.trans (congrArg some h.contract.symm)
        requests := fun other hother => by cases hrequests ▸ hother }
  | declined answer id hanswer hphase hrequests hsent hgranting hgranted =>
    rw [hreplies] at hsent
    obtain ⟨rfl, rfl⟩ := List.cons_eq_cons.mp hsent
    -- the old contract stays
    have hcancel : observed.onAnswer answer.messageType = observed.cancelPendingRequest :=
      onAnswer_declined hanswer
    show Settled { link with policy := observed.onAnswer answer.messageType, replies := _ } ∨ _
    rw [hcancel]
    have hsettled : Settled { link with policy := observed, replies := [] } :=
      @Settled.of_quiet { link with replies := [] } _ ⟨hrequests, rfl, hgranting⟩
        (Or.inr hphase) hgranted
    exact Or.inl hsettled.cancel

theorem Orderly.deliver (h : Orderly link) {reply : Reply} {replies : List Reply}
    (hreplies : link.replies = reply :: replies) :
    Orderly { link with policy := Link.receive link.policy reply, replies := replies } := by
  have hnonempty : link.replies ≠ [] := by
    rw [hreplies]
    exact List.cons_ne_nil _ _
  obtain ⟨first, hnumbered, hseen⟩ := h.inOrder
  rw [hreplies] at hnumbered
  obtain ⟨rfl, hrest⟩ := hnumbered
  rw [receive_eq hseen (h.listens hnonempty)]
  refine ⟨⟨reply.messageId + 1, hrest, ?_⟩, ?_⟩
  · exact seenUpTo_succ _ _ (sourceMessageId_onAnswer _ _)
  · rcases h.situation with hsettled | ⟨request, hexchange⟩
    · rcases hsettled.busy with hquiet | hready
      · exact absurd hquiet.2.1 hnonempty
      · exact Or.inl (hsettled.arrive hready replies _ reply.answer)
    · rcases hexchange.arrive hreplies (some (wireMessageId reply.messageId)) with
        hsettled | hexchange
      · exact Or.inl hsettled
      · exact Or.inr ⟨request, hexchange⟩

/-! ## Runs -/

theorem Orderly.next (h : Orderly link) {action : LinkAction} {after : Link}
    (hallows : link.Allows action) (hnext : link.next action = some after) : Orderly after := by
  cases action with
  | sink operation =>
    by_cases hkeepalive : operation = .refreshActivePps
    · subst hkeepalive
      obtain rfl := Option.some.inj hnext
      exact h.keepalive hallows _
    · have hrespond : link.next (.sink operation) =
          if operation.isLocal then some (link.respond (operation.perform link.policy))
          else none := by
        cases operation with
        | refreshActivePps => exact absurd rfl hkeepalive
        | _ => rfl
      rw [hrespond] at hnext
      split_ifs at hnext with hlocal
      obtain rfl := Option.some.inj hnext
      exact h.sink hlocal hallows hkeepalive
  | capabilities pdos refresh =>
    have hempty : link.replies.isEmpty = true := List.isEmpty_iff.mpr hallows.2.1
    simp only [Link.next] at hnext
    rw [if_pos hempty] at hnext
    obtain rfl := Option.some.inj hnext
    exact h.capabilities hallows pdos refresh
  | accept =>
    simp only [Link.next] at hnext
    split at hnext
    · rename_i hgranting hrequests
      obtain rfl := Option.some.inj hnext
      exact h.accept hrequests
    · cases hnext
  | decline wait =>
    simp only [Link.next] at hnext
    split at hnext
    · rename_i hgranting hrequests
      obtain rfl := Option.some.inj hnext
      refine h.decline ?_ hgranting hrequests
      cases wait with
      | false => exact Or.inl rfl
      | true => exact Or.inr rfl
    · cases hnext
  | psRdy =>
    obtain ⟨request, hgranting, rfl⟩ := Option.map_eq_some_iff.mp hnext
    exact h.psRdy hgranting
  | deliver =>
    simp only [Link.next] at hnext
    split at hnext
    · cases hnext
    · rename_i reply replies hreplies
      obtain rfl := Option.some.inj hnext
      exact h.deliver hreplies

theorem Orderly.of_reaches {start : Link} {actions : List LinkAction} (hstart : start.Starts)
    (hrun : Reaches Link.SerialStep start actions link) : Orderly link := by
  refine hrun.invariant (orderly_of_starts hstart) ?_
  rintro state action after hstate ⟨hallows, hnext⟩
  exact hstate.next hallows hnext

end FluxPurr.Pd
