import FluxPurr.Buzzer.Arbiter

/-!
# Cues that start and cues that wait

While protection is active nothing but the alarm is started (`eq_protectionAlarm_of_starts`).

A cue that is reported as queued waits for the end of the present one.  As nothing waits while
nothing plays, the tick that ends the present cue starts it; only a later feedback in its place
or an operation that sets the safety state drops it before (`Fate`).
-/

namespace FluxPurr.Buzzer

/-- The cue waits for the end of another. -/
def BuzzerDecisionDisposition.isQueueing : BuzzerDecisionDisposition → Bool
  | queued | replaced => true
  | _ => false

namespace BuzzerArbiter

variable {arbiter after : BuzzerArbiter} {operation : BuzzerOperation} {cue : PendingCue}
  {nowMs : ℕ}

/-! ## Starts -/

/-- A cue is started: it is active, in a new generation of the output. -/
def Starts (before after : BuzzerArbiter) (cue : BuzzerCueId) : Prop :=
  after.activeCue = some cue ∧ after.controller.generation ≠ before.controller.generation

/-- The operation keeps what plays, or leaves nothing to play. -/
def Continues (before after : BuzzerArbiter) : Prop :=
  after.activeCue = none ∨ after.activeCue = before.activeCue ∧
    after.controller.generation = before.controller.generation

theorem Continues.not_starts {cue : BuzzerCueId} (h : Continues arbiter after) :
    ¬Starts arbiter after cue := by
  rintro ⟨hactive, hgeneration⟩
  rcases h with hnone | ⟨-, hsame⟩
  · cases hnone.symm.trans hactive
  · exact hgeneration hsame

theorem Continues.of_controller (h : after.controller = arbiter.controller) :
    Continues arbiter after := by
  refine .inr ⟨?_, by rw [h]⟩
  unfold activeCue
  rw [h]

theorem continues_enterAttentionPending (arbiter : BuzzerArbiter) :
    Continues arbiter arbiter.enterAttentionPending.2 := by
  unfold BuzzerArbiter.enterAttentionPending
  dsimp only
  split
  · exact .inl rfl
  · exact .of_controller rfl

theorem continues_clearAttention (arbiter : BuzzerArbiter) :
    Continues arbiter arbiter.clearAttention.2 := by
  unfold BuzzerArbiter.clearAttention
  dsimp only
  split
  · exact .inl rfl
  · exact .inl rfl
  · exact .of_controller rfl

theorem eq_protectionAlarm_of_starts (h : arbiter.Invariant) {cue : BuzzerCueId}
    (hsafety : arbiter.safetyState = .protectionActive ∨
      (arbiter.perform operation).2.safetyState = .protectionActive)
    (hstarts : Starts arbiter (arbiter.perform operation).2 cue) : cue = .protectionAlarm := by
  rcases hsafety with hbefore | hafter
  · cases operation with
    | activateProtection source nowMs => exact (Option.some.inj hstarts.1).symm
    | requestProtectionReplay source nowMs =>
      change Starts arbiter (arbiter.requestProtectionReplay source nowMs).2 cue at hstarts
      unfold BuzzerArbiter.requestProtectionReplay at hstarts
      split_ifs at hstarts
      · exact absurd hstarts (Continues.of_controller rfl).not_starts
      · exact absurd hstarts (Continues.of_controller rfl).not_starts
      · exact (Option.some.inj hstarts.1).symm
    | enterAttentionPending =>
      exact absurd hstarts (continues_enterAttentionPending arbiter).not_starts
    | clearAttention => exact absurd hstarts (continues_clearAttention arbiter).not_starts
    | requestAttentionReminder source nowMs =>
      change Starts arbiter (arbiter.requestAttentionReminder source nowMs).2 cue at hstarts
      unfold BuzzerArbiter.requestAttentionReminder at hstarts
      rw [if_pos (by rw [hbefore]; decide)] at hstarts
      exact absurd hstarts (Continues.of_controller rfl).not_starts
    | requestFeedback source cue nowMs =>
      change Starts arbiter (arbiter.requestFeedback source cue nowMs).2 _ at hstarts
      unfold BuzzerArbiter.requestFeedback at hstarts
      rw [if_pos (show arbiter.safetyState ≠ .normal by rw [hbefore]; decide)] at hstarts
      split_ifs at hstarts
      · exact absurd hstarts (Continues.of_controller rfl).not_starts
      · exact absurd hstarts (Continues.of_controller rfl).not_starts
    | tick nowMs =>
      change Starts arbiter ((arbiter.tickController nowMs).startDeferred nowMs).2 cue at hstarts
      have hticked : (arbiter.tickController nowMs).safetyState = .protectionActive := hbefore
      unfold BuzzerArbiter.startDeferred at hstarts
      rw [if_neg (show (arbiter.tickController nowMs).safetyState ≠ .attentionPending by
        rw [hticked]; decide), if_neg (show (arbiter.tickController nowMs).safetyState ≠ .normal by
        rw [hticked]; decide), ite_self] at hstarts
      have hcontinues : Continues arbiter (arbiter.tickController nowMs) :=
        arbiter.controller.activeCue_tick nowMs
      exact absurd hstarts hcontinues.not_starts
  · rcases (h.perform operation).protection hafter with hnone | halarm
    · cases hnone.symm.trans hstarts.1
    · exact Option.some.inj (hstarts.1.symm.trans halarm)

/-! ## Cues that wait -/

/-- The cue waits for the end of the one that plays. -/
def Waits (arbiter : BuzzerArbiter) (cue : PendingCue) : Prop :=
  arbiter.isActive = true ∧
    (arbiter.pendingFeedback = some cue ∨
      arbiter.pendingAttention = some cue.source ∧ cue.cue = .attentionReminder)

/-- The tick ends the cue that plays and starts this one. -/
def StartedByTick (arbiter : BuzzerArbiter) (operation : BuzzerOperation) (cue : PendingCue) :
    Prop :=
  ∃ nowMs, operation = .tick nowMs ∧ (arbiter.tickController nowMs).isActive = false ∧
    (arbiter.perform operation).1 = some (cue.decision .started) ∧
    Starts arbiter (arbiter.perform operation).2 cue.cue

end BuzzerArbiter

open BuzzerArbiter

/-- The operation sets the safety state. -/
def BuzzerOperation.setsSafetyState : BuzzerOperation → Bool
  | activateProtection _ _ | enterAttentionPending | clearAttention => true
  | _ => false

namespace BuzzerArbiter

variable {arbiter after : BuzzerArbiter} {operation : BuzzerOperation} {cue : PendingCue}
  {nowMs : ℕ}

/-- Another feedback takes the place of the cue, or the safety state is set. -/
def Superseded (arbiter : BuzzerArbiter) (operation : BuzzerOperation) : Prop :=
  (∃ decision, (arbiter.perform operation).1 = some decision ∧
    decision.disposition = .replaced) ∨ operation.setsSafetyState = true

/-- What becomes of a cue that waits, in the operations that follow. -/
inductive Fate (cue : PendingCue) : BuzzerArbiter → List BuzzerOperation → Prop
  | waits {arbiter : BuzzerArbiter} : arbiter.Waits cue → Fate cue arbiter []
  | keepsWaiting {arbiter : BuzzerArbiter} {operation : BuzzerOperation}
      {operations : List BuzzerOperation} : arbiter.Waits cue →
        Fate cue (arbiter.perform operation).2 operations →
        Fate cue arbiter (operation :: operations)
  | started {arbiter : BuzzerArbiter} {operation : BuzzerOperation}
      {operations : List BuzzerOperation} : arbiter.StartedByTick operation cue →
        Fate cue arbiter (operation :: operations)
  | superseded {arbiter : BuzzerArbiter} {operation : BuzzerOperation}
      {operations : List BuzzerOperation} : arbiter.Superseded operation →
        Fate cue arbiter (operation :: operations)

theorem starts_of_ended {played : BuzzerArbiter} {cue : BuzzerCueId}
    (hactive : arbiter.isActive = true) (hended : (arbiter.tickController nowMs).isActive = false)
    (hplayed : played.controller = (arbiter.controller.tick nowMs).play cue nowMs) :
    Starts arbiter played cue := by
  have hgeneration : played.controller.generation = arbiter.controller.generation + 1 + 1 := by
    rw [hplayed, ← BuzzerController.generation_tick_of_ended hactive hended]
    rfl
  refine ⟨?_, fun heq => ?_⟩
  · unfold activeCue
    rw [hplayed]
    rfl
  · exact (BuzzerController.generation_ne _).2 (hgeneration.symm.trans heq)

theorem Invariant.waits_cases (h : arbiter.Invariant) (hwaits : arbiter.Waits cue) :
    arbiter.safetyState = .normal ∧ arbiter.pendingFeedback = some cue ∨
      arbiter.safetyState = .attentionPending ∧ arbiter.pendingAttention = some cue.source ∧
        cue.cue = .attentionReminder := by
  obtain ⟨-, hfeedback | ⟨hattention, hcue⟩⟩ := hwaits
  · exact .inl ⟨h.feedback (by rw [hfeedback]; rfl), hfeedback⟩
  · exact .inr ⟨h.attention (by rw [hattention]; rfl), hattention, hcue⟩

/-- The tick that ends the present cue starts the one that waits. -/
theorem Waits.tick (h : arbiter.Invariant) (hwaits : arbiter.Waits cue) (nowMs : ℕ) :
    (arbiter.perform (.tick nowMs)).2.Waits cue ∨ arbiter.StartedByTick (.tick nowMs) cue := by
  have hperform : arbiter.perform (.tick nowMs) =
      (arbiter.tickController nowMs).startDeferred nowMs := rfl
  cases hactive : (arbiter.tickController nowMs).isActive with
  | true =>
    refine .inl ?_
    rw [hperform]
    unfold startDeferred
    rw [if_pos hactive]
    exact ⟨hactive, hwaits.2⟩
  | false =>
    refine .inr ⟨nowMs, rfl, hactive, ?_⟩
    rw [hperform]
    unfold startDeferred
    rw [if_neg (by rw [hactive]; decide)]
    rcases h.waits_cases hwaits with ⟨hsafety, hslot⟩ | ⟨hsafety, hslot, hcue⟩
    · have hticked : (arbiter.tickController nowMs).safetyState = .normal := hsafety
      have hpending : (arbiter.tickController nowMs).pendingFeedback = some cue := hslot
      rw [if_neg (by rw [hticked]; decide), if_pos hticked, hpending]
      exact ⟨rfl, starts_of_ended hwaits.1 hactive rfl⟩
    · have hticked : (arbiter.tickController nowMs).safetyState = .attentionPending := hsafety
      have hpending : (arbiter.tickController nowMs).pendingAttention = some cue.source := hslot
      rw [if_pos hticked, hpending]
      refine ⟨?_, ?_⟩
      · unfold PendingCue.decision
        rw [hcue]
      · rw [hcue]
        exact starts_of_ended hwaits.1 hactive rfl

/-- A cue that waits goes on waiting, is started or is superseded. -/
theorem Waits.perform (h : arbiter.Invariant) (hwaits : arbiter.Waits cue)
    (operation : BuzzerOperation) :
    (arbiter.perform operation).2.Waits cue ∨ arbiter.StartedByTick operation cue ∨
      arbiter.Superseded operation := by
  cases operation with
  | activateProtection | enterAttentionPending | clearAttention =>
    exact .inr (.inr (.inr rfl))
  | tick nowMs => exact (hwaits.tick h nowMs).imp_right .inl
  | requestProtectionReplay source nowMs =>
    refine .inl ?_
    have hsafety : arbiter.safetyState ≠ .protectionActive := by
      rcases h.waits_cases hwaits with ⟨hsafety, -⟩ | ⟨hsafety, -⟩
      · rw [hsafety]; decide
      · rw [hsafety]; decide
    change (arbiter.requestProtectionReplay source nowMs).2.Waits cue
    unfold requestProtectionReplay
    rwa [if_pos hsafety]
  | requestAttentionReminder source nowMs =>
    refine .inl ?_
    change (arbiter.requestAttentionReminder source nowMs).2.Waits cue
    unfold requestAttentionReminder
    split
    · exact hwaits
    · next hsafety =>
        rcases h.waits_cases hwaits with ⟨hnormal, -⟩ | ⟨-, hslot, -⟩
        · exact absurd hsafety (not_not.mpr (by rw [hnormal]; decide))
        · rw [hslot]
          split
          · next hnone =>
              have hactive := hwaits.1
              rw [isActive_eq, hnone] at hactive
              cases hactive
          · exact hwaits
          · exact hwaits
          · exact hwaits
  | requestFeedback source feedback nowMs =>
    have hactive : arbiter.isActive = true := hwaits.1
    by_cases hfeedback : feedback.isFeedback = true
    · rcases h.waits_cases hwaits with ⟨hsafety, hslot⟩ | ⟨hsafety, -⟩
      · have hqueue : arbiter.requestFeedback source feedback nowMs =
            if feedback = .uiInput then (⟨source, feedback, .coalesced⟩, arbiter)
            else (⟨source, feedback, .replaced⟩,
              { arbiter with pendingFeedback := some ⟨source, feedback⟩ }) := by
          unfold requestFeedback
          rw [if_neg (not_not.mpr hfeedback), if_neg (not_not.mpr hsafety),
            if_neg (not_not.mpr hactive), hslot]
          rfl
        unfold Superseded BuzzerArbiter.perform
        dsimp only
        rw [hqueue]
        split
        · exact .inl hwaits
        · exact .inr (.inr (.inl ⟨_, rfl, rfl⟩))
      · refine .inl ?_
        change (arbiter.requestFeedback source feedback nowMs).2.Waits cue
        unfold requestFeedback
        rwa [if_neg (not_not.mpr hfeedback), if_pos (by rw [hsafety]; decide)]
    · refine .inl ?_
      change (arbiter.requestFeedback source feedback nowMs).2.Waits cue
      unfold requestFeedback
      rwa [if_pos hfeedback]

theorem Waits.fate (operations : List BuzzerOperation) :
    ∀ {arbiter : BuzzerArbiter}, arbiter.Invariant → arbiter.Waits cue →
      Fate cue arbiter operations := by
  induction operations with
  | nil => exact fun _ hwaits => .waits hwaits
  | cons operation operations ih =>
    intro arbiter h hwaits
    rcases hwaits.perform h operation with hnext | hstarted | hsuperseded
    · exact .keepsWaiting hwaits (ih (h.perform operation) hnext)
    · exact .started hstarted
    · exact .superseded hsuperseded

theorem isQueueing_preempting (arbiter : BuzzerArbiter) :
    arbiter.preemptingDisposition.isQueueing = false := by
  unfold preemptingDisposition
  split <;> rfl

theorem isQueueing_requestProtectionReplay (arbiter : BuzzerArbiter) (source : BuzzerCueSource)
    (nowMs : ℕ) :
    (arbiter.requestProtectionReplay source nowMs).1.disposition.isQueueing = false := by
  unfold requestProtectionReplay
  split_ifs
  · rfl
  · rfl
  · exact arbiter.isQueueing_preempting

theorem waits_of_requestAttentionReminder {source : BuzzerCueSource}
    (h : (arbiter.requestAttentionReminder source nowMs).1.disposition.isQueueing = true) :
    (arbiter.requestAttentionReminder source nowMs).2.Waits
      ⟨(arbiter.requestAttentionReminder source nowMs).1.source,
        (arbiter.requestAttentionReminder source nowMs).1.cue⟩ := by
  unfold requestAttentionReminder at h ⊢
  split at h
  · cases h
  · next hsafety =>
      rw [if_neg hsafety]
      split at h
      · cases h
      · cases h
      · cases h
      · split at h
        · cases h
        · next hnone =>
            rw [if_neg hnone]
            exact ⟨isActive_of_activeCue (by assumption), .inr ⟨rfl, rfl⟩⟩

theorem waits_of_requestFeedback {source : BuzzerCueSource} {feedback : BuzzerCueId}
    (h : (arbiter.requestFeedback source feedback nowMs).1.disposition.isQueueing = true) :
    (arbiter.requestFeedback source feedback nowMs).2.Waits
      ⟨(arbiter.requestFeedback source feedback nowMs).1.source,
        (arbiter.requestFeedback source feedback nowMs).1.cue⟩ := by
  unfold requestFeedback at h ⊢
  split at h
  · cases h
  · next hfeedback =>
      rw [if_neg hfeedback]
      split at h
      · cases h
      · next hsafety =>
          rw [if_neg hsafety]
          split at h
          · cases h
          · next hactive =>
              rw [if_neg hactive]
              dsimp only at h ⊢
              split at h
              · exact ⟨not_not.mp hactive, .inl rfl⟩
              · split at h
                · cases h
                · next hother =>
                    rw [if_neg hother]
                    exact ⟨not_not.mp hactive, .inl rfl⟩

/-- A cue that is reported as queued or as a replacement waits. -/
theorem waits_of_reported {decision : BuzzerDecision}
    (h : (arbiter.perform operation).1 = some decision)
    (hqueueing : decision.disposition.isQueueing = true) :
    (arbiter.perform operation).2.Waits ⟨decision.source, decision.cue⟩ := by
  cases operation with
  | activateProtection source nowMs =>
    cases h
    cases arbiter.isQueueing_preempting.symm.trans hqueueing
  | requestProtectionReplay source nowMs =>
    cases h
    cases (arbiter.isQueueing_requestProtectionReplay source nowMs).symm.trans hqueueing
  | enterAttentionPending =>
    change arbiter.enterAttentionPending.1 = some decision at h
    unfold enterAttentionPending at h
    dsimp only at h
    split at h
    · cases h
      cases hqueueing
    · cases h
  | clearAttention =>
    change arbiter.clearAttention.1 = some decision at h
    unfold clearAttention at h
    dsimp only at h
    split at h
    · cases h
      cases hqueueing
    · cases h
      cases hqueueing
    · cases h
  | requestAttentionReminder source nowMs =>
    cases h
    exact waits_of_requestAttentionReminder hqueueing
  | requestFeedback source feedback nowMs =>
    cases h
    exact waits_of_requestFeedback hqueueing
  | tick nowMs =>
    change ((arbiter.tickController nowMs).startDeferred nowMs).1 = some decision at h
    unfold startDeferred at h
    split at h
    · cases h
    · split at h
      · split at h
        · cases h
        · cases h
          cases hqueueing
      · split at h
        · split at h
          · cases h
          · cases h
            cases hqueueing
        · cases h

end BuzzerArbiter

end FluxPurr.Buzzer
