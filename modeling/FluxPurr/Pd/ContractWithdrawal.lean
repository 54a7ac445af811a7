import FluxPurr.Pd.PollEvents

/-!
# A poll that withdraws the contract

`Consistent` is the invariant of the runtime: no contract is active while VBUS is low or
awaited, while the transport backs off, before an attachment and after a protection event.
With it a poll that handles a fault leaves no active contract, and none becomes active
before the next `PS_RDY` (`FailsClosed`).

The poll ends in one of its steps, and each step either withdraws the contract at once or
ends with the interlock that says that it was withdrawn before (`Withdrawn`).
-/

namespace FluxPurr.Pd

open FluxPurr.Runs
open Fusb302bRuntime

/-- No contract is active, or VBUS is low and nothing is observed. -/
def Withdrawn (runtime : Fusb302bRuntime) : Prop :=
  runtime.policy.activeContract = .none ∨
    (runtime.vbusStatusObserved = false ∧
      (runtime.vbusLowInterlocked = true ∨ runtime.awaitingVbusRestore = true))

structure Consistent (runtime : Fusb302bRuntime) : Prop where
  low : runtime.vbusLowInterlocked = true → runtime.policy.activeContract = .none
  awaiting : runtime.awaitingVbusRestore = true → runtime.policy.activeContract = .none
  backoff : runtime.transportRecoveryNotBeforeMs.isSome → runtime.policy.activeContract = .none
  detached : runtime.polarity = none → runtime.policy.activeContract = .none
  fault : runtime.policy.phase = .fault → runtime.policy.activeContract = .none

namespace Consistent

variable {runtime : Fusb302bRuntime}

theorem new : Consistent .new :=
  ⟨fun _ => rfl, fun _ => rfl, fun _ => rfl, fun _ => rfl, fun _ => rfl⟩

theorem of_none (h : runtime.policy.activeContract = .none) : Consistent runtime :=
  ⟨fun _ => h, fun _ => h, fun _ => h, fun _ => h, fun _ => h⟩

theorem withdrawn (h : Consistent runtime) (hwithdrawn : Withdrawn runtime) :
    runtime.policy.activeContract = .none := by
  obtain hnone | ⟨-, hlow | hawaiting⟩ := hwithdrawn
  · exact hnone
  · exact h.low hlow
  · exact h.awaiting hawaiting

end Consistent

/-! ## The events -/

/-- The runtime while it handles events, with `limit` of them to come. -/
structure Receiving (limit : ℕ) (runtime : Fusb302bRuntime) : Prop where
  low : runtime.vbusLowInterlocked = true → runtime.policy.activeContract = .none
  awaiting : runtime.awaitingVbusRestore = false
  backoff : runtime.transportRecoveryNotBeforeMs.isSome → runtime.policy.Unconfirmed limit
  attached : runtime.polarity.isSome
  fault : runtime.policy.phase = .fault → runtime.policy.activeContract = .none

namespace Receiving

variable {limit : ℕ} {runtime after : Fusb302bRuntime} {trace : List PollStep}

theorem consistent (h : Receiving limit runtime) : Consistent runtime where
  __ := h
  awaiting hawaiting := by rw [h.awaiting] at hawaiting; cases hawaiting
  backoff hbackoff := (h.backoff hbackoff).1
  detached hnone := by
    have hattached := h.attached
    rw [hnone] at hattached
    cases hattached

theorem of_consistent (h : Consistent runtime) (hawaiting : runtime.awaitingVbusRestore = false)
    (hbackoff : runtime.transportRecoveryNotBeforeMs = none)
    (hattached : runtime.polarity.isSome) : Receiving limit runtime where
  __ := h
  awaiting := hawaiting
  backoff hsome := by rw [hbackoff] at hsome; cases hsome
  attached := hattached

theorem event (h : Receiving (limit + 1) runtime) (hlimit : limit ≤ 2) {status0 : UInt8}
    {observed : Bool} (hlaw : EventLaw (runtime.sampled status0 observed) trace after) :
    Receiving limit after where
  low hlow := by rw [hlaw.low] at hlow; cases hlow
  awaiting := hlaw.awaiting.trans h.awaiting
  backoff hbackoff := by
    obtain hbefore | hunconfirmed := hlaw.backoff hbackoff
    · exact hlaw.moves.unconfirmed (h.backoff hbefore)
    · exact ⟨hunconfirmed.1, (Nat.add_le_add_left hlimit _).trans hunconfirmed.2⟩
  attached := hlaw.polarity ▸ h.attached
  fault hfault := by
    obtain hbefore | hnone := hlaw.moves.fault hfault
    · obtain hactive | hactive | ⟨-, hphase⟩ := hlaw.moves.active
      · exact hactive.trans (h.fault hbefore)
      · exact hactive
      · rw [hbefore] at hphase
        cases hphase
    · exact hnone

theorem vbusLow (h : Receiving limit runtime) {status0 : UInt8} {observed : Bool}
    (hlaw : LowLaw (runtime.sampled status0 observed) after) :
    after.policy.activeContract = .none := by
  obtain hlow | hnone := hlaw.withdrawn
  · exact hlaw.active.elim (fun hactive => hactive.trans (h.low hlow)) id
  · exact hnone

theorem run (h : Receiving limit runtime) (hlimit : limit ≤ 3)
    (hrun : ReceiveRun limit runtime trace after) : Consistent after := by
  induction hrun with
  | done runtime => exact h.consistent
  | last houtcome =>
    cases houtcome with
    | failed _ _ hlaw =>
      have hlaw' : EventLaw (sampled _ _ _) _ _ := hlaw
      exact (h.event (by omega) hlaw').consistent
    | low _ _ _ hlaw => exact .of_none (h.vbusLow hlaw)
    | event _ _ _ _ hlaw => exact (h.event (by omega) hlaw).consistent
  | more status0 _ hlaw _ ih => exact ih (h.event (by omega) hlaw) (by omega)

end Receiving

namespace ReceiveRun

variable {limit : ℕ} {runtime after : Fusb302bRuntime} {trace : List PollStep}

theorem unconfirmed (hrun : ReceiveRun limit runtime trace after)
    (h : runtime.policy.Unconfirmed limit) : after.policy.activeContract = .none := by
  induction hrun with
  | done runtime => exact h.1
  | last houtcome =>
    cases houtcome with
    | failed _ _ hlaw => exact (hlaw.moves.unconfirmed h).1
    | low _ _ _ hlaw => exact hlaw.active.elim (fun hactive => hactive.trans h.1) id
    | event _ _ _ _ hlaw => exact (hlaw.moves.unconfirmed h).1
  | more _ _ hlaw _ ih => exact ih (hlaw.moves.unconfirmed h)

/-- After a withdrawal too few messages follow to confirm a contract again. -/
theorem withdrawn (hrun : ReceiveRun limit runtime trace after) (hlimit : limit ≤ 3)
    (h : ∃ step ∈ trace, step.withdraws) : Withdrawn after := by
  induction hrun with
  | done runtime => simp at h
  | last houtcome =>
    cases houtcome with
    | failed _ _ hlaw => exact .inl (hlaw.withdrawn h).1
    | low _ _ _ hlaw =>
      refine .inr ⟨?_, .inl hlaw.interlocked⟩
      exact Bool.eq_false_iff.mpr fun hobserved => nomatch hlaw.observed hobserved
    | event status0 handled htrace _ hlaw =>
      rw [htrace] at h
      exact .inl (hlaw.withdrawn (by simpa [PollStep.withdraws] using h)).1
  | more status0 _ hlaw hrest ih =>
    obtain ⟨step, hmem, hwithdraws⟩ := h
    obtain hmem | hmem := List.mem_append.mp hmem
    · obtain rfl | hmem := List.mem_cons.mp hmem
      · cases hwithdraws
      · -- the messages that are left are at most two
        obtain ⟨hnone, hstage⟩ := hlaw.withdrawn ⟨step, hmem, hwithdraws⟩
        exact .inl (hrest.unconfirmed ⟨hnone, by omega⟩)
    · exact ih (by omega) ⟨step, hmem, hwithdraws⟩

theorem active_none (hrun : ReceiveRun limit runtime trace after)
    (htrace : ∀ step ∈ trace, ¬ step.isPsRdy) (h : runtime.policy.activeContract = .none) :
    after.policy.activeContract = .none := by
  induction hrun with
  | done runtime => exact h
  | last houtcome =>
    cases houtcome with
    | failed _ _ hlaw =>
      exact hlaw.moves.active_none (fun ⟨step, hmem, hpsRdy⟩ => htrace step hmem hpsRdy) h
    | low _ _ _ hlaw => exact hlaw.active.elim (fun hactive => hactive.trans h) id
    | event status0 handled htrace' _ hlaw =>
      refine hlaw.moves.active_none (fun ⟨step, hmem, hpsRdy⟩ => ?_) h
      exact htrace step (htrace' ▸ List.mem_cons_of_mem _ hmem) hpsRdy
  | more status0 _ hlaw _ ih =>
    refine ih (fun step hmem => htrace step (List.mem_append_right _ hmem)) ?_
    refine hlaw.moves.active_none (fun ⟨step, hmem, hpsRdy⟩ => ?_) h
    exact htrace step (List.mem_append_left _ (List.mem_cons_of_mem _ hmem)) hpsRdy

/-- A contract that is active at the end was seen with VBUS present. -/
theorem shown (hrun : ReceiveRun (limit + 1) runtime trace after)
    (hreceiving : Receiving (limit + 1) runtime) (h : after.policy.activeContract ≠ .none) :
    ∃ step ∈ trace, step.showsVbus := by
  cases hrun with
  | last houtcome =>
    cases houtcome with
    | failed htrace _ hlaw =>
      have hwithdrawn := hlaw.withdrawn ⟨.failed, htrace ▸ List.mem_singleton_self _, rfl⟩
      exact absurd hwithdrawn.1 h
    | low _ _ _ hlaw => exact absurd (hreceiving.vbusLow hlaw) h
    | event status0 handled htrace hok _ =>
      exact ⟨.sampled status0, htrace ▸ List.mem_cons_self, hok⟩
  | more status0 hok _ _ =>
    exact ⟨.sampled status0, List.mem_append_left _ List.mem_cons_self, hok⟩

/-- What is observed at the end was sampled by one of the events. -/
theorem sampled (hrun : ReceiveRun limit runtime trace after)
    (h : after.vbusStatusObserved = true) :
    (runtime.vbusStatusObserved = true ∧ after.vbusStatusRaw = runtime.vbusStatusRaw) ∨
      .sampled after.vbusStatusRaw ∈ trace := by
  induction hrun with
  | done runtime => exact .inl ⟨h, rfl⟩
  | last houtcome =>
    cases houtcome with
    | failed _ _ hlaw => exact .inl ⟨hlaw.sample.1 ▸ h, hlaw.sample.2⟩
    | low _ _ _ hlaw => cases hlaw.observed h
    | event status0 handled htrace _ hlaw =>
      have hraw : _ = status0 := hlaw.sample.2
      rw [htrace, hraw]
      exact .inr List.mem_cons_self
  | more status0 _ hlaw _ ih =>
    right
    obtain ⟨-, hraw⟩ | hmem := ih h
    · have hbetween : _ = status0 := hlaw.sample.2
      rw [hraw, hbetween]
      exact List.mem_append_left _ List.mem_cons_self
    · exact List.mem_append_right _ hmem

end ReceiveRun

/-! ## The steps of a poll -/

/-- What a part of a poll does that begins without an observation. -/
structure PollLaw (before : Fusb302bRuntime) (trace : List PollStep) (after : Fusb302bRuntime) :
    Prop where
  consistent : Consistent before → Consistent after
  withdrawn : (∃ step ∈ trace, step.withdraws) → Withdrawn after
  confirmed : (∀ step ∈ trace, ¬ step.isPsRdy) → before.policy.activeContract = .none →
    after.policy.activeContract = .none
  sampled : after.vbusStatusObserved = true → .sampled after.vbusStatusRaw ∈ trace
  shown : Consistent before → after.policy.activeContract ≠ .none → ∃ step ∈ trace, step.showsVbus

namespace PollLaw

variable {runtime : Fusb302bRuntime} {nowMs : ℕ} {transfers : PollTransfers}

/-- A timer withdraws the contract, or nothing but the keepalive changes. -/
theorem pollTimers_cases (runtime : Fusb302bRuntime) (nowMs : ℕ) :
    (runtime.timersTrace nowMs = [.timedOut] ∧
      (runtime.pollTimers nowMs).1.policy.activeContract = .none ∧
      ((runtime.pollTimers nowMs).1.vbusStatusObserved = true →
        runtime.vbusStatusObserved = true ∧
          (runtime.pollTimers nowMs).1.vbusStatusRaw = runtime.vbusStatusRaw)) ∨
    (runtime.timersTrace nowMs = [] ∧ ∃ keepalive lastRequest,
      (runtime.pollTimers nowMs).1 = { runtime with
        ppsKeepalivePendingAtMs := keepalive, lastRequestAtMs := lastRequest }) := by
  unfold timersTrace pollTimers
    pollPendingRequest pollPpsTransitionCapabilityRefresh
  cases hkeepalive : expired runtime.ppsKeepalivePendingAtMs
      fusb302bPpsKeepaliveResponseTimeoutMs nowMs <;>
    by_cases hrequest : runtime.policy.phase.negotiates = true ∧
      expired runtime.lastRequestAtMs fusb302bContractRequestTimeoutMs nowMs = true <;>
    by_cases hrefresh : runtime.sourceCapabilitiesRefreshPending = true ∧
      expired runtime.sourceCapabilitiesRefreshRequestedAtMs fusb302bContractRequestTimeoutMs
        nowMs = true <;>
    simp only [hrequest, hrefresh, and_self, if_true, decide_true, not_true_eq_false, if_false,
      decide_false, Bool.false_eq_true, not_false_eq_true, true_and, false_and, reduceCtorEq,
      false_or, or_false]
  all_goals first
    | exact ⟨rfl, fun hobserved => ⟨hobserved, rfl⟩⟩
    | exact ⟨rfl, fun hobserved => nomatch hobserved⟩
    | exact ⟨_, _, rfl⟩

variable {after : Fusb302bRuntime}

variable {trace : List PollStep}

/-- A part of the poll in which no contract is active afterwards. -/
theorem of_none (hnone : after.policy.activeContract = .none)
    (hsampled : after.vbusStatusObserved = true → .sampled after.vbusStatusRaw ∈ trace) :
    PollLaw runtime trace after :=
  ⟨fun _ => .of_none hnone, fun _ => .inl hnone, fun _ _ => hnone, hsampled,
    fun _ hactive => absurd hnone hactive⟩

theorem skipped (hpolicy : after.policy = runtime.policy)
    (hlow : after.vbusLowInterlocked = runtime.vbusLowInterlocked)
    (hawaiting : after.awaitingVbusRestore = runtime.awaitingVbusRestore)
    (hpolarity : after.polarity = runtime.polarity)
    (hbackoff : after.transportRecoveryNotBeforeMs.isSome →
      runtime.transportRecoveryNotBeforeMs.isSome) (hobserved : after.vbusStatusObserved = false)
    (hnone : Consistent runtime → runtime.policy.activeContract = .none) :
    PollLaw runtime [] after where
  consistent h := by
    refine ⟨fun hl => ?_, fun ha => ?_, fun hb => ?_, fun hd => ?_, fun hf => ?_⟩ <;>
      rw [hpolicy]
    · exact h.low (hlow ▸ hl)
    · exact h.awaiting (hawaiting ▸ ha)
    · exact h.backoff (hbackoff hb)
    · exact h.detached (hpolarity ▸ hd)
    · exact h.fault (hpolicy ▸ hf)
  withdrawn h := absurd h EventLaw.not_withdraws_nil
  confirmed _ hbefore := hpolicy ▸ hbefore
  sampled h := by rw [hobserved] at h; cases h
  shown h hactive := absurd (hpolicy ▸ hnone h) hactive

theorem awaited (hawaiting : runtime.awaitingVbusRestore = true)
    (hunobserved : runtime.vbusStatusObserved = false) (hpolicy : after.policy = runtime.policy)
    (hobserved : after.vbusStatusObserved = runtime.vbusStatusObserved)
    (htrace : (∃ step ∈ trace, step.withdraws) → after.awaitingVbusRestore = true) :
    PollLaw runtime trace after where
  consistent h := .of_none (hpolicy ▸ h.awaiting hawaiting)
  withdrawn h := .inr ⟨hobserved.trans hunobserved, .inr (htrace h)⟩
  confirmed _ hnone := hpolicy ▸ hnone
  sampled h := by
    rw [hobserved, hunobserved] at h
    cases h
  shown h hactive := absurd (hpolicy ▸ h.awaiting hawaiting) hactive

theorem pollVbusRestore {result : Fusb302bRuntime × Bool}
    (hunobserved : runtime.vbusStatusObserved = false)
    (h : runtime.pollVbusRestore nowMs transfers = some result) :
    PollLaw runtime (runtime.restoreTrace nowMs transfers) result.1 := by
  unfold Fusb302bRuntime.pollVbusRestore at h
  unfold restoreTrace
  by_cases hawaiting : runtime.awaitingVbusRestore = true
  · rw [if_neg (not_not.mpr hawaiting)] at h
    cases hstatus : transfers.restoreStatus with
    | none =>
      rw [hstatus] at h
      obtain rfl := Option.some.inj h
      exact of_none rfl fun hobserved => by cases hunobserved.symm.trans hobserved
    | some status0 =>
      rw [hstatus] at h
      dsimp only at h ⊢
      split_ifs at h with hok hexpired hsynchronized
      · obtain rfl := Option.some.inj h
        rw [if_neg fun hfailed => hfailed.2.2 hsynchronized]
        exact awaited hawaiting hunobserved rfl rfl fun hstep => by
          simp [PollStep.withdraws] at hstep
      all_goals
        obtain rfl := Option.some.inj h
        exact awaited hawaiting hunobserved rfl rfl fun _ => hawaiting
  · rw [if_pos hawaiting] at h
    cases h

theorem awaiting_of_pollVbusRestore (h : runtime.pollVbusRestore nowMs transfers = none) :
    runtime.awaitingVbusRestore = false := by
  by_contra hawaiting
  unfold Fusb302bRuntime.pollVbusRestore at h
  rw [if_neg (not_not.mpr (Bool.not_eq_false _ ▸ hawaiting))] at h
  split at h
  · cases h
  · dsimp only at h
    split_ifs at h

/-- What an attachment leaves for the events, or the end of the poll. -/
theorem pollAttachment_cases (runtime : Fusb302bRuntime) (nowMs : ℕ) (transfers : PollTransfers)
    (hunobserved : runtime.vbusStatusObserved = false) :
    (∃ result, runtime.pollAttachment nowMs transfers = .inl result ∧
      PollLaw runtime (runtime.attachmentTrace transfers) result.1) ∨
    (∃ attached, runtime.pollAttachment nowMs transfers = .inr attached ∧
      runtime.attachmentTrace transfers = [] ∧ attached.polarity.isSome ∧
      attached.policy.activeContract = runtime.policy.activeContract ∧
      (attached.policy.phase = .fault → runtime.policy.phase = .fault) ∧
      attached.vbusLowInterlocked = runtime.vbusLowInterlocked ∧
      attached.awaitingVbusRestore = runtime.awaitingVbusRestore ∧
      attached.transportRecoveryNotBeforeMs = runtime.transportRecoveryNotBeforeMs ∧
      attached.vbusStatusObserved = runtime.vbusStatusObserved) := by
  have hunsampled {after : Fusb302bRuntime} {trace : List PollStep}
      (hsame : after.vbusStatusObserved = runtime.vbusStatusObserved)
      (h : after.vbusStatusObserved = true) : .sampled after.vbusStatusRaw ∈ trace := by
    rw [hsame, hunobserved] at h
    cases h
  unfold pollAttachment attachmentTrace
  by_cases hpolarity : runtime.polarity.isSome
  · rw [if_pos hpolarity, if_pos hpolarity]
    exact .inr ⟨runtime, rfl, rfl, hpolarity, rfl, id, rfl, rfl, rfl, rfl⟩
  · rw [if_neg hpolarity, if_neg hpolarity]
    cases hstatus : transfers.attachStatus with
    | none => exact .inl ⟨_, rfl, of_none rfl (hunsampled rfl)⟩
    | some status1a =>
      dsimp only
      cases hsettled : fusb302bSettledSinkPolarity status1a with
      | none =>
        have hnone : (none : Option CcPin).isSome ≠ true := nofun
        rw [if_neg fun hfailed => hnone hfailed.1]
        refine .inl ⟨_, rfl, skipped rfl rfl rfl rfl id hunobserved fun h => h.detached ?_⟩
        exact Option.not_isSome_iff_eq_none.mp hpolarity
      | some polarity =>
        by_cases hconfigured : transfers.configured = true
        · simp only [hconfigured, not_true_eq_false, and_false, if_false]
          refine .inr ⟨_, rfl, trivial, rfl, ?_, ?_, rfl, rfl, rfl, rfl⟩
          · unfold SinkPolicy.onAttachmentDetected
            split_ifs <;> rfl
          · unfold SinkPolicy.onAttachmentDetected
            split_ifs
            · exact fun hfault => nomatch hfault
            · exact id
        · dsimp only
          rw [if_pos hconfigured, if_pos ⟨rfl, hconfigured⟩]
          exact .inl ⟨_, rfl, of_none rfl (hunsampled rfl)⟩

theorem pollAttached (hunobserved : runtime.vbusStatusObserved = false)
    (hawaiting : runtime.awaitingVbusRestore = false)
    (hbackoff : runtime.transportRecoveryNotBeforeMs = none)
    (hattached : runtime.polarity.isSome) :
    PollLaw runtime (runtime.attachedTrace nowMs transfers)
      (runtime.pollAttached nowMs transfers).1 := by
  have hrun := pollReceiveMessages_run nowMs transfers.receive fusb302bRxBurstLimit runtime
  unfold Fusb302bRuntime.pollAttached attachedTrace
  generalize messagesTrace nowMs transfers.receive fusb302bRxBurstLimit runtime = trace at hrun ⊢
  generalize pollReceiveMessages nowMs transfers.receive fusb302bRxBurstLimit
    runtime = messages at hrun ⊢
  obtain ⟨after, result⟩ := messages
  have hevents : PollLaw runtime trace after :=
    { consistent := fun h =>
        (Receiving.of_consistent h hawaiting hbackoff hattached).run (le_refl 3) hrun
      withdrawn := hrun.withdrawn (le_refl 3)
      confirmed := hrun.active_none
      sampled := fun h => (hrun.sampled h).elim
        (fun hbefore => by rw [hunobserved] at hbefore; cases hbefore.1) id
      shown := fun h => hrun.shown (.of_consistent h hawaiting hbackoff hattached) }
  dsimp only
  cases result with
  | false => simpa only [Bool.false_eq_true, not_false_eq_true, if_true, List.append_nil]
      using hevents
  | true =>
    simp only [not_true_eq_false, if_false]
    obtain ⟨htrace, hnone, hsampled⟩ | ⟨htrace, keepalive, lastRequest, hafter⟩ :=
      pollTimers_cases after nowMs
    · rw [htrace]
      refine of_none hnone fun hobserved => ?_
      obtain ⟨hbefore, hraw⟩ := hsampled hobserved
      rw [hraw]
      exact List.mem_append_left _ (hevents.sampled hbefore)
    · rw [htrace, hafter, List.append_nil]
      obtain ⟨hconsistent, hwithdrawn, hconfirmed, hsampled, hshown⟩ := hevents
      refine ⟨fun h => ?_, hwithdrawn, hconfirmed, hsampled, hshown⟩
      obtain ⟨hlow, hawaiting, hbackoff, hdetached, hfault⟩ := hconsistent h
      exact ⟨hlow, hawaiting, hbackoff, hdetached, hfault⟩

theorem congr {before other after : Fusb302bRuntime}
    (h : PollLaw other trace after) (hconsistent : Consistent before → Consistent other)
    (hactive : other.policy.activeContract = before.policy.activeContract) :
    PollLaw before trace after :=
  ⟨fun hbefore => h.consistent (hconsistent hbefore), h.withdrawn,
    fun htrace hnone => h.confirmed htrace (hactive.trans hnone), h.sampled,
    fun hbefore => h.shown (hconsistent hbefore)⟩

theorem poll (runtime : Fusb302bRuntime) (nowMs : ℕ) (transfers : PollTransfers) :
    PollLaw runtime (runtime.pollTrace nowMs transfers) (runtime.poll nowMs transfers).1 := by
  unfold Fusb302bRuntime.poll pollTrace
  dsimp only
  split_ifs with hbackoff hfault
  · exact skipped rfl rfl rfl rfl (fun h => nomatch h) rfl fun h => h.fault hfault
  · -- the poll begins without an observation and without a backoff
    generalize hbegun : { runtime with
      vbusStatusObserved := false, vbusStatusRaw := 0,
      transportRecoveryNotBeforeMs := none } = begun
    have hconsistent : Consistent runtime → Consistent begun := by
      rintro ⟨hlow, hawaiting, -, hdetached, hfault'⟩
      rw [← hbegun]
      exact ⟨hlow, hawaiting, fun h => (nomatch h), hdetached, hfault'⟩
    have hunobserved : begun.vbusStatusObserved = false := hbegun ▸ rfl
    have hactive : begun.policy.activeContract = runtime.policy.activeContract := hbegun ▸ rfl
    have hnobackoff : begun.transportRecoveryNotBeforeMs = none := hbegun ▸ rfl
    have hphase : begun.policy.phase ≠ .fault := hbegun ▸ hfault
    refine congr ?_ hconsistent hactive
    cases hrestore : begun.pollVbusRestore nowMs transfers with
    | some result => exact pollVbusRestore hunobserved hrestore
    | none =>
      have hawaiting := awaiting_of_pollVbusRestore hrestore
      obtain ⟨result, hended, hlaw⟩ | ⟨attached, hgoes, htrace, hpolarity, hsame, hfault',
          hlow, hawaiting', hbackoff', hobserved⟩ :=
        pollAttachment_cases begun nowMs transfers hunobserved
      · rw [hended]
        simpa only [List.append_nil] using hlaw
      · rw [hgoes, htrace, List.nil_append]
        refine congr (pollAttached (hobserved.trans hunobserved) (hawaiting'.trans hawaiting)
          (hbackoff'.trans hnobackoff) hpolarity) (fun h => ?_) hsame
        refine ⟨fun hl => ?_, fun ha => ?_, fun hb => ?_, fun hd => ?_, fun hf => ?_⟩
        · exact hsame.trans (h.low (hlow ▸ hl))
        · exact hsame.trans (h.awaiting (hawaiting' ▸ ha))
        · exact hsame.trans (h.backoff (hbackoff' ▸ hb))
        · rw [hd] at hpolarity
          cases hpolarity
        · exact absurd (hfault' hf) hphase
  · refine skipped rfl rfl rfl rfl id rfl fun h => h.backoff ?_
    by_contra hnone
    rw [Option.not_isSome_iff_eq_none] at hnone
    exact hbackoff (by simp [pollTransportRetryDue, hnone])

end PollLaw

/-! ## The commands -/

/-- A command makes no contract active, and shows no fault. -/
structure Settles (before after : Fusb302bRuntime) : Prop where
  active : after.policy.activeContract = before.policy.activeContract ∨
    after.policy.activeContract = .none
  low : after.vbusLowInterlocked = true → before.vbusLowInterlocked = true
  awaiting : after.awaitingVbusRestore = before.awaitingVbusRestore
  backoff : after.transportRecoveryNotBeforeMs.isSome →
    before.transportRecoveryNotBeforeMs.isSome ∨ after.policy.activeContract = .none
  polarity : after.polarity = before.polarity
  fault : after.policy.phase = .fault → before.policy.phase = .fault

namespace Settles

variable {runtime before between after : Fusb302bRuntime} {nowMs : ℕ}

theorem refl (runtime : Fusb302bRuntime) : Settles runtime runtime :=
  ⟨.inl rfl, id, rfl, .inl, rfl, id⟩

theorem active_none (h : Settles before after) (hnone : before.policy.activeContract = .none) :
    after.policy.activeContract = .none :=
  h.active.elim (fun hactive => hactive.trans hnone) id

theorem trans (hfirst : Settles before between) (hsecond : Settles between after) :
    Settles before after where
  active := by
    obtain hactive | hnone := hsecond.active
    · rw [hactive]
      exact hfirst.active
    · exact .inr hnone
  low h := hfirst.low (hsecond.low h)
  awaiting := hsecond.awaiting.trans hfirst.awaiting
  backoff h := by
    obtain hbackoff | hnone := hsecond.backoff h
    · exact (hfirst.backoff hbackoff).imp_right hsecond.active_none
    · exact .inr hnone
  polarity := hsecond.polarity.trans hfirst.polarity
  fault h := hfirst.fault (hsecond.fault h)

theorem consistent (h : Settles before after) (hbefore : Consistent before) : Consistent after where
  low hlow := h.active_none (hbefore.low (h.low hlow))
  awaiting hawaiting := h.active_none (hbefore.awaiting (h.awaiting ▸ hawaiting))
  backoff hbackoff := (h.backoff hbackoff).elim (fun hb => h.active_none (hbefore.backoff hb)) id
  detached hpolarity := h.active_none (hbefore.detached (h.polarity ▸ hpolarity))
  fault hfault := h.active_none (hbefore.fault (h.fault hfault))

theorem recover (runtime : Fusb302bRuntime) (fault : TransientTransportFault) (nowMs : ℕ) :
    Settles runtime (runtime.recoverTransientTransportFault fault nowMs) :=
  ⟨.inr rfl, fun h => (nomatch h), rfl, fun _ => .inr rfl, rfl, fun h => (nomatch h)⟩

theorem quiet (hactive : after.policy.activeContract = before.policy.activeContract)
    (hphase : after.policy.phase = .fault → before.policy.phase = .fault)
    (hlow : after.vbusLowInterlocked = before.vbusLowInterlocked)
    (hawaiting : after.awaitingVbusRestore = before.awaitingVbusRestore)
    (hbackoff : after.transportRecoveryNotBeforeMs = before.transportRecoveryNotBeforeMs)
    (hpolarity : after.polarity = before.polarity) : Settles before after :=
  ⟨.inl hactive, fun h => hlow ▸ h, hawaiting, fun h => .inl (hbackoff ▸ h), hpolarity, hphase⟩

theorem not_fault_cancelPendingRequest {policy : SinkPolicy} {phase : SinkPhase}
    (h : policy.cancelPendingRequest.phase = .fault) : phase = .fault := by
  simp only [SinkPolicy.cancelPendingRequest] at h
  split_ifs at h

theorem transmitOr (ok : Bool) {sent : Fusb302bRuntime → PdContractRequestState × Fusb302bRuntime}
    (hsent : ∀ messageId, Settles { runtime with nextMessageId := messageId }
      (sent { runtime with nextMessageId := messageId }).2) :
    Settles runtime (runtime.transmitOr nowMs ok sent).2 := by
  unfold Fusb302bRuntime.transmitOr transmit
  cases ok with
  | true =>
    refine trans ?_ (hsent _)
    exact quiet rfl id rfl rfl rfl rfl
  | false => exact recover runtime _ nowMs

variable {response : Response}

theorem responded (h : Responds runtime.policy response) (hpolicy : after.policy = response.policy)
    (hlow : after.vbusLowInterlocked = runtime.vbusLowInterlocked)
    (hawaiting : after.awaitingVbusRestore = runtime.awaitingVbusRestore)
    (hbackoff : after.transportRecoveryNotBeforeMs = runtime.transportRecoveryNotBeforeMs)
    (hpolarity : after.polarity = runtime.polarity) : Settles runtime after where
  active := hpolicy ▸ h.active
  low hl := hlow ▸ hl
  awaiting := hawaiting
  backoff hb := .inl (hbackoff ▸ hb)
  polarity := hpolarity
  fault hfault := by
    rw [hpolicy] at hfault
    obtain hphase | hphase | hphase := h.phase <;> rw [hphase] at hfault
    · exact hfault
    · cases hfault
    · cases hfault

theorem sendRequest (h : Responds runtime.policy response) (ok : Bool) :
    Settles runtime (runtime.sendRequest response nowMs ok).2 := by
  have hresponded : Settles runtime { runtime with policy := response.policy } :=
    responded h rfl rfl rfl rfl rfl
  unfold Fusb302bRuntime.sendRequest
  cases response.rdo with
  | none => exact hresponded
  | some rdo =>
    refine hresponded.trans (transmitOr ok fun _ => ?_)
    exact quiet rfl id rfl rfl rfl rfl

theorem askSourceCapabilities (requestContract ok : Bool) :
    Settles runtime (runtime.askSourceCapabilities nowMs requestContract ok).2 := by
  unfold Fusb302bRuntime.askSourceCapabilities
  split_ifs
  · exact refl runtime
  · exact transmitOr ok fun _ => quiet rfl id rfl rfl rfl rfl

theorem refreshSourceCapabilities (replacePending requestContract : Bool)
    (transfers : CommandTransfers) :
    Settles runtime (runtime.refreshSourceCapabilities nowMs replacePending requestContract
      transfers).2 := by
  unfold Fusb302bRuntime.refreshSourceCapabilities
  dsimp only
  split_ifs
  · refine trans ?_ (askSourceCapabilities _ _)
    exact quiet rfl id rfl rfl rfl rfl
  · refine trans ?_ (recover _ _ _)
    exact quiet rfl id rfl rfl rfl rfl
  · exact quiet rfl id rfl rfl rfl rfl
  · refine trans ?_ (askSourceCapabilities _ _)
    exact quiet rfl id rfl rfl rfl rfl

theorem replaceRequest (runtime : Fusb302bRuntime) (request : PdContractRequest) :
    Settles runtime (runtime.replaceRequest request) :=
  quiet rfl not_fault_cancelPendingRequest rfl rfl rfl rfl

theorem requestContract (request : PdContractRequest) (replacePending : Bool)
    (transfers : CommandTransfers) :
    Settles runtime (runtime.requestContract request nowMs replacePending transfers).2 := by
  have hbegun : Settles runtime runtime.forgetOutcome.endIdleTransition :=
    quiet rfl id rfl rfl rfl rfl
  have hreplaced := hbegun.trans (replaceRequest _ request)
  unfold Fusb302bRuntime.requestContract
  dsimp only
  split_ifs
  · exact hreplaced.trans (refreshSourceCapabilities _ _ _)
  · exact hbegun
  · exact hreplaced.trans (refreshSourceCapabilities _ _ _)
  · exact hreplaced.trans (recover _ _ _)
  · exact hbegun
  · refine hbegun.trans (trans ?_ (refreshSourceCapabilities _ _ _))
    exact quiet rfl id rfl rfl rfl rfl
  · exact hbegun.trans (sendRequest (.requestContract _ request) _)

theorem abortPendingOperation (transfers : CommandTransfers) :
    Settles runtime (runtime.abortPendingOperation nowMs transfers) := by
  have haborted : Settles runtime { runtime.withdrawQuery.forgetOutcome.endIdleTransition with
      policy := runtime.policy.cancelPendingRequest } :=
    quiet rfl not_fault_cancelPendingRequest rfl rfl rfl rfl
  unfold Fusb302bRuntime.abortPendingOperation
  dsimp only
  split_ifs
  · exact haborted
  · exact haborted.trans (recover _ _ _)

theorem sendIdleRequest (ok : Bool) : Settles runtime (runtime.sendIdleRequest nowMs ok).2 := by
  unfold Fusb302bRuntime.sendIdleRequest
  split
  · exact sendRequest (.requestAutomaticIdleFixedContract _) ok
  · split
    · exact refl runtime
    · split
      · refine trans ?_ (sendRequest ?_ ok)
        · exact quiet rfl id rfl rfl rfl rfl
        · exact .requestAutomaticIdlePpsStep runtime.policy _
      · exact sendRequest (.requestAutomaticIdleFixedContract _) ok

theorem startAutomaticIdle (ok : Bool) :
    Settles runtime (runtime.startAutomaticIdle nowMs ok).2 := by
  unfold Fusb302bRuntime.startAutomaticIdle
  dsimp only
  split_ifs
  · exact refl runtime
  · have hcanceled : Settles runtime
        { runtime with policy := runtime.policy.cancelPendingRequest } :=
      quiet rfl not_fault_cancelPendingRequest rfl rfl rfl rfl
    split
    · exact hcanceled
    · split_ifs
      · exact hcanceled.trans (quiet rfl id rfl rfl rfl rfl)
      · refine hcanceled.trans (trans ?_ (sendIdleRequest ok))
        exact quiet rfl id rfl rfl rfl rfl
      · refine hcanceled.trans (trans ?_ (sendIdleRequest ok))
        exact quiet rfl id rfl rfl rfl rfl
  · split
    · exact refl runtime
    · split_ifs
      · exact quiet rfl id rfl rfl rfl rfl
      · refine trans ?_ (sendIdleRequest ok)
        exact quiet rfl id rfl rfl rfl rfl
      · refine trans ?_ (sendIdleRequest ok)
        exact quiet rfl id rfl rfl rfl rfl

theorem requestAutomaticIdleContract (replacePending : Bool) (transfers : CommandTransfers) :
    Settles runtime
      (runtime.requestAutomaticIdleContract nowMs replacePending transfers).2 := by
  have hforgotten : Settles runtime runtime.forgetOutcome := quiet rfl id rfl rfl rfl rfl
  have hreplaced : Settles runtime runtime.forgetOutcome.replaceWithIdle :=
    quiet rfl not_fault_cancelPendingRequest rfl rfl rfl rfl
  unfold Fusb302bRuntime.requestAutomaticIdleContract
  dsimp only
  split_ifs
  · exact refl runtime
  · exact hreplaced.trans (startAutomaticIdle _)
  · refine hreplaced.trans (trans ?_ (refreshSourceCapabilities _ _ _))
    exact quiet rfl id rfl rfl rfl rfl
  · exact hforgotten.trans (startAutomaticIdle _)

theorem sendIdleStep (h : Responds runtime.policy response) (ok : Bool) :
    Settles runtime (runtime.sendIdleStep response nowMs ok).2 := by
  unfold Fusb302bRuntime.sendIdleStep transmit
  dsimp only
  cases response.rdo with
  | none => exact responded h rfl rfl rfl rfl rfl
  | some rdo => cases ok <;> exact responded h rfl rfl rfl rfl rfl

theorem advanceAutomaticIdleTransition (transfers : CommandTransfers) :
    Settles runtime (runtime.advanceAutomaticIdleTransition nowMs transfers).2 := by
  unfold Fusb302bRuntime.advanceAutomaticIdleTransition
  split
  · exact refl runtime
  dsimp only
  split_ifs
  · exact refl runtime
  · exact quiet rfl id rfl rfl rfl rfl
  · exact refl runtime
  · exact refl runtime
  · split
    · exact refl runtime
    · split
      · exact sendIdleStep (.requestAutomaticIdleFixedContract _) _
      · exact sendIdleStep (.requestAutomaticIdlePpsStep _ _) _

end Settles

theorem perform_cases (runtime : Fusb302bRuntime) (nowMs : ℕ) (operation : RuntimeOperation) :
    PollLaw runtime (runtime.operationTrace nowMs operation)
      (runtime.perform nowMs operation) ∨ Settles runtime (runtime.perform nowMs operation) := by
  cases operation with
  | poll transfers => exact .inl (.poll runtime nowMs transfers)
  | requestContract request replacePending transfers =>
    exact .inr (.requestContract request replacePending transfers)
  | refreshSourceCapabilities replacePending requestContract transfers =>
    exact .inr (.refreshSourceCapabilities replacePending requestContract transfers)
  | requestAutomaticIdleContract replacePending transfers =>
    exact .inr (.requestAutomaticIdleContract replacePending transfers)
  | advanceAutomaticIdleTransition transfers =>
    exact .inr (.advanceAutomaticIdleTransition transfers)
  | abortPendingOperation transfers => exact .inr (.abortPendingOperation transfers)
  | setStandbyMinimumMv minimumMv => exact .inr (.quiet rfl id rfl rfl rfl rfl)

variable {operations : List (ℕ × RuntimeOperation)}

theorem Consistent.reaches {after : Fusb302bRuntime}
    (hrun : Reaches Fusb302bRuntime.Step .new operations after) : Consistent after := by
  refine hrun.invariant Consistent.new ?_
  rintro before ⟨nowMs, operation⟩ _ h rfl
  exact (perform_cases before nowMs operation).elim (fun hlaw => hlaw.consistent h)
    fun hsettles => hsettles.consistent h

theorem active_none_of_unconfirmed {start after : Fusb302bRuntime}
    (hnone : start.policy.activeContract = .none)
    (hrun : Reaches Fusb302bRuntime.UnconfirmedStep start operations after) :
    after.policy.activeContract = .none := by
  have hstep : ∀ (runtime : Fusb302bRuntime) (action : ℕ × RuntimeOperation)
      (runtime' : Fusb302bRuntime), runtime.policy.activeContract = .none →
        runtime.UnconfirmedStep action runtime' → runtime'.policy.activeContract = .none := by
    rintro before ⟨nowMs, operation⟩ _ h ⟨rfl, htrace⟩
    exact (perform_cases before nowMs operation).elim (fun hlaw => hlaw.confirmed htrace h)
      fun hsettles => hsettles.active_none h
  refine hrun.invariant ?_ hstep
  exact hnone

/-! ## Polling fails closed -/

variable {observation : PdStatusObservation}

theorem contractObservation_some {phase : SinkPhase} {contract : Contract} {statusRaw : UInt8}
    {source : SourceCapabilities}
    (h : fusb302bContractObservation phase contract statusRaw source = some observation) :
    contract ≠ .none ∧ PhyStatus.vbusOk statusRaw = true ∧
      observation.statusRaw = statusRaw := by
  unfold fusb302bContractObservation at h
  split_ifs at h with hnone
  obtain ⟨hconfirms, -⟩ := not_or.mp hnone
  rw [not_not] at hconfirms
  obtain ⟨-, hcontract, hok⟩ := of_decide_eq_true hconfirms
  cases h
  exact ⟨hcontract, hok, rfl⟩

variable {runtime : Fusb302bRuntime}

/-- An observation needs an active contract and a sample with VBUS present. -/
theorem pdStatusObservation_some (h : runtime.pdStatusObservation = some observation) :
    runtime.policy.activeContract ≠ .none ∧ runtime.vbusStatusObserved = true ∧
      observation.statusRaw = runtime.vbusStatusRaw ∧
      PhyStatus.vbusOk runtime.vbusStatusRaw = true := by
  unfold pdStatusObservation at h
  split_ifs at h with hnone
  obtain ⟨source, -, hobservation⟩ := Option.bind_eq_some_iff.mp h
  obtain ⟨hcontract, hok, hraw⟩ := contractObservation_some hobservation
  refine ⟨hcontract, ?_, hraw, hok⟩
  by_contra hunobserved
  exact hnone (.inr (.inr hunobserved))

/-- What a poll leaves to be observed. -/
structure FailsClosed (runtime : Fusb302bRuntime) (nowMs : ℕ) (transfers : PollTransfers) :
    Prop where
  observed : ∀ observation,
    (runtime.poll nowMs transfers).1.pdStatusObservation = some observation →
    ∃ earlier later, runtime.pollTrace nowMs transfers =
        earlier ++ .sampled observation.statusRaw :: later ∧
      PhyStatus.vbusOk observation.statusRaw = true ∧ ∀ step ∈ later, ¬ step.withdraws
  withdrawn : (∃ step ∈ runtime.pollTrace nowMs transfers, step.withdraws) →
    ∀ operations after, Reaches Fusb302bRuntime.UnconfirmedStep
      (runtime.poll nowMs transfers).1 operations after →
    after.policy.activeContract = .none ∧ after.pdStatusObservation = none

theorem pdStatusObservation_of_none
    (h : runtime.policy.activeContract = .none) : runtime.pdStatusObservation = none := by
  by_contra hsome
  obtain ⟨observation, hobservation⟩ := Option.ne_none_iff_exists'.mp hsome
  exact (pdStatusObservation_some hobservation).1 h

theorem Withdrawn.unobserved (h : Withdrawn runtime) :
    runtime.pdStatusObservation = none := by
  obtain hnone | ⟨hunobserved, -⟩ := h
  · exact pdStatusObservation_of_none hnone
  · by_contra hsome
    obtain ⟨observation, hobservation⟩ := Option.ne_none_iff_exists'.mp hsome
    have hobserved := (pdStatusObservation_some hobservation).2.1
    rw [hunobserved] at hobserved
    cases hobserved

variable {transfers : PollTransfers}

/-- An observation was sampled in the poll, which has withdrawn nothing. -/
theorem observed_of_poll {nowMs : ℕ}
    (h : (runtime.poll nowMs transfers).1.pdStatusObservation = some observation) :
    .sampled observation.statusRaw ∈ runtime.pollTrace nowMs transfers ∧
      PhyStatus.vbusOk observation.statusRaw = true ∧
      ∀ step ∈ runtime.pollTrace nowMs transfers, ¬ step.withdraws := by
  have hlaw := PollLaw.poll runtime nowMs transfers
  obtain ⟨-, hobserved, hraw, hok⟩ := pdStatusObservation_some h
  rw [hraw]
  refine ⟨hlaw.sampled hobserved, hok, fun step hmem hwithdraws => ?_⟩
  have hnone := (hlaw.withdrawn ⟨step, hmem, hwithdraws⟩).unobserved
  rw [h] at hnone
  cases hnone

theorem failsClosed_of_consistent (h : Consistent runtime)
    (nowMs : ℕ) (transfers : PollTransfers) : FailsClosed runtime nowMs transfers where
  observed observation hobservation := by
    obtain ⟨hmem, hok, hkept⟩ := observed_of_poll hobservation
    obtain ⟨earlier, later, htrace⟩ := List.append_of_mem hmem
    refine ⟨earlier, later, htrace, hok, fun step hstep => hkept step ?_⟩
    rw [htrace]
    exact List.mem_append_right _ (List.mem_cons_of_mem _ hstep)
  withdrawn hwithdraws operations after hrun := by
    have hlaw := PollLaw.poll runtime nowMs transfers
    have hnone := active_none_of_unconfirmed
      ((hlaw.consistent h).withdrawn (hlaw.withdrawn hwithdraws)) hrun
    exact ⟨hnone, pdStatusObservation_of_none hnone⟩

/-- After a poll a contract is active only where VBUS was seen and nothing withdrawn. -/
theorem shown_of_poll (h : Consistent runtime) {nowMs : ℕ}
    (hactive : (runtime.poll nowMs transfers).1.policy.activeContract ≠ .none) :
    (∃ step ∈ runtime.pollTrace nowMs transfers, step.showsVbus) ∧
      ∀ step ∈ runtime.pollTrace nowMs transfers, ¬ step.withdraws := by
  have hlaw := PollLaw.poll runtime nowMs transfers
  refine ⟨hlaw.shown h hactive, fun step hmem hwithdraws => hactive ?_⟩
  exact (hlaw.consistent h).withdrawn (hlaw.withdrawn ⟨step, hmem, hwithdraws⟩)

/-- Every poll of a runtime in use fails closed. -/
theorem poll_failsClosed (operations : List (ℕ × RuntimeOperation)) (runtime : Fusb302bRuntime)
    (hrun : Reaches Fusb302bRuntime.Step .new operations runtime) (nowMs : ℕ)
    (transfers : PollTransfers) : FailsClosed runtime nowMs transfers :=
  failsClosed_of_consistent (.reaches hrun) nowMs transfers

/-- VBUS is lost after the first contract was confirmed. -/
theorem poll_failsClosed_vbusLost : ∃ runtime, Reaches Fusb302bRuntime.Step .new
      [(7, .poll (.receiving [.offer, .accepted, .psReady]))] runtime ∧
    runtime.pdStatusObservation.isSome = true ∧
    (runtime.pollTrace 8 .vbusLost).any PollStep.withdraws = true ∧
    FailsClosed runtime 8 .vbusLost :=
  have hrun := Reaches.of_foldl
    (fun (runtime : Fusb302bRuntime) (timed : ℕ × RuntimeOperation) =>
      runtime.perform timed.1 timed.2) .new
    [(7, .poll (.receiving [.offer, .accepted, .psReady]))]
  ⟨_, hrun, by decide +kernel, by decide +kernel, poll_failsClosed _ _ hrun 8 .vbusLost⟩

end FluxPurr.Pd
