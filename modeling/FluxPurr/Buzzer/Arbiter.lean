import FluxPurr.Buzzer.Controller

/-!
# The buzzer arbiter

The arbiter decides which cue is heard.  A protection alarm is heard at once, feedback and
reminders wait for the end of the cue that is playing, each in a slot of its own.

Each slot belongs to a safety state (`Fits`), and both are empty while nothing plays
(`Invariant`).
-/

namespace FluxPurr.Buzzer

inductive BuzzerCueSource where
  | startup
  | frontPanel
  | runtimeControl
  | thermalProtection
  | thermalAttention
deriving DecidableEq, Repr

inductive BuzzerDecisionDisposition where
  | started
  | preempted
  | queued
  | coalesced
  | replaced
  | dropped
  | stopped
deriving DecidableEq, Repr

structure BuzzerDecision where
  source : BuzzerCueSource
  cue : BuzzerCueId
  disposition : BuzzerDecisionDisposition
deriving DecidableEq, Repr

structure BuzzerTick where
  output : BuzzerOutput
  deferredStart : Option BuzzerDecision
deriving DecidableEq, Repr

inductive AudibleSafetyState where
  | normal
  | protectionActive
  | attentionPending
deriving DecidableEq, Repr

structure PendingCue where
  source : BuzzerCueSource
  cue : BuzzerCueId
deriving DecidableEq, Repr

def PendingCue.decision (pending : PendingCue) (disposition : BuzzerDecisionDisposition) :
    BuzzerDecision :=
  ⟨pending.source, pending.cue, disposition⟩

structure BuzzerArbiter where
  controller : BuzzerController
  safetyState : AudibleSafetyState
  pendingFeedback : Option PendingCue
  pendingAttention : Option BuzzerCueSource

namespace BuzzerArbiter

def new : BuzzerArbiter := ⟨.new, .normal, none, none⟩

def activeCue (arbiter : BuzzerArbiter) : Option BuzzerCueId := arbiter.controller.activeCue

def isActive (arbiter : BuzzerArbiter) : Bool := arbiter.controller.isActive

def output (arbiter : BuzzerArbiter) : BuzzerOutput := arbiter.controller.output

def play (arbiter : BuzzerArbiter) (cue : BuzzerCueId) (nowMs : ℕ) : BuzzerArbiter :=
  { arbiter with controller := arbiter.controller.play cue nowMs }

def stop (arbiter : BuzzerArbiter) : BuzzerArbiter :=
  { arbiter with controller := arbiter.controller.stop }

variable (arbiter : BuzzerArbiter)

def setSafetyState (safetyState : AudibleSafetyState) : BuzzerArbiter :=
  { arbiter with safetyState := safetyState, pendingFeedback := none, pendingAttention := none }

/-- A protection alarm that is heard at once. -/
def preemptingDisposition : BuzzerDecisionDisposition :=
  if arbiter.isActive then .preempted else .started

variable (source : BuzzerCueSource)

def activateProtection (nowMs : ℕ) : BuzzerDecision × BuzzerArbiter :=
  (⟨source, .protectionAlarm, arbiter.preemptingDisposition⟩,
    (arbiter.setSafetyState .protectionActive).play .protectionAlarm nowMs)

def requestProtectionReplay (nowMs : ℕ) : BuzzerDecision × BuzzerArbiter :=
  if arbiter.safetyState ≠ .protectionActive then
    (⟨source, .protectionAlarm, .dropped⟩, arbiter)
  else if arbiter.activeCue = some .protectionAlarm then
    (⟨source, .protectionAlarm, .coalesced⟩, arbiter)
  else
    (⟨source, .protectionAlarm, arbiter.preemptingDisposition⟩, arbiter.play .protectionAlarm nowMs)

def enterAttentionPending : Option BuzzerDecision × BuzzerArbiter :=
  let arbiter := arbiter.setSafetyState .attentionPending
  if arbiter.activeCue = some .protectionAlarm then
    (some ⟨.thermalProtection, .protectionAlarm, .stopped⟩, arbiter.stop)
  else (none, arbiter)

def clearAttention : Option BuzzerDecision × BuzzerArbiter :=
  let arbiter := arbiter.setSafetyState .normal
  match arbiter.activeCue with
  | some .protectionAlarm =>
      (some ⟨.thermalProtection, .protectionAlarm, .stopped⟩, arbiter.stop)
  | some .attentionReminder =>
      (some ⟨.thermalAttention, .attentionReminder, .stopped⟩, arbiter.stop)
  | _ => (none, arbiter)

def requestAttentionReminder (nowMs : ℕ) : BuzzerDecision × BuzzerArbiter :=
  if arbiter.safetyState ≠ .attentionPending then
    (⟨source, .attentionReminder, .dropped⟩, arbiter)
  else
    match arbiter.activeCue with
    | none =>
        (⟨source, .attentionReminder, .started⟩, arbiter.play .attentionReminder nowMs)
    | some .attentionReminder | some .protectionAlarm =>
        (⟨source, .attentionReminder, .coalesced⟩, arbiter)
    | some _ =>
        if arbiter.pendingAttention.isSome then
          (⟨source, .attentionReminder, .coalesced⟩, arbiter)
        else
          (⟨source, .attentionReminder, .queued⟩, { arbiter with pendingAttention := some source })

def requestFeedback (cue : BuzzerCueId) (nowMs : ℕ) : BuzzerDecision × BuzzerArbiter :=
  if ¬cue.isFeedback then (⟨source, cue, .dropped⟩, arbiter)
  else if arbiter.safetyState ≠ .normal then (⟨source, cue, .dropped⟩, arbiter)
  else if ¬arbiter.isActive then (⟨source, cue, .started⟩, arbiter.play cue nowMs)
  else
    let pending : PendingCue := ⟨source, cue⟩
    match arbiter.pendingFeedback with
    | none => (pending.decision .queued, { arbiter with pendingFeedback := some pending })
    | some _ =>
        if cue = .uiInput then (pending.decision .coalesced, arbiter)
        else (pending.decision .replaced, { arbiter with pendingFeedback := some pending })

/-- Starts what waits, when nothing plays any more. -/
def startDeferred (nowMs : ℕ) : Option BuzzerDecision × BuzzerArbiter :=
  if arbiter.isActive then (none, arbiter)
  else if arbiter.safetyState = .attentionPending then
    match arbiter.pendingAttention with
    | none => (none, arbiter)
    | some source =>
        (some ⟨source, .attentionReminder, .started⟩,
          { arbiter with pendingAttention := none }.play .attentionReminder nowMs)
  else if arbiter.safetyState = .normal then
    match arbiter.pendingFeedback with
    | none => (none, arbiter)
    | some pending =>
        (some (pending.decision .started),
          { arbiter with pendingFeedback := none }.play pending.cue nowMs)
  else (none, arbiter)

/-- The pattern goes on. -/
def tickController (nowMs : ℕ) : BuzzerArbiter :=
  { arbiter with controller := arbiter.controller.tick nowMs }

def tick (nowMs : ℕ) : BuzzerTick × BuzzerArbiter :=
  let (deferredStart, arbiter) := (arbiter.tickController nowMs).startDeferred nowMs
  (⟨arbiter.output, deferredStart⟩, arbiter)

end BuzzerArbiter

inductive BuzzerOperation where
  | activateProtection (source : BuzzerCueSource) (nowMs : ℕ)
  | requestProtectionReplay (source : BuzzerCueSource) (nowMs : ℕ)
  | enterAttentionPending
  | clearAttention
  | requestAttentionReminder (source : BuzzerCueSource) (nowMs : ℕ)
  | requestFeedback (source : BuzzerCueSource) (cue : BuzzerCueId) (nowMs : ℕ)
  | tick (nowMs : ℕ)
deriving DecidableEq, Repr

namespace BuzzerArbiter

/-- The decision that is reported, of a tick the deferred one. -/
def perform (arbiter : BuzzerArbiter) : BuzzerOperation → Option BuzzerDecision × BuzzerArbiter
  | .activateProtection source nowMs =>
      let (decision, arbiter) := arbiter.activateProtection source nowMs
      (some decision, arbiter)
  | .requestProtectionReplay source nowMs =>
      let (decision, arbiter) := arbiter.requestProtectionReplay source nowMs
      (some decision, arbiter)
  | .enterAttentionPending => arbiter.enterAttentionPending
  | .clearAttention => arbiter.clearAttention
  | .requestAttentionReminder source nowMs =>
      let (decision, arbiter) := arbiter.requestAttentionReminder source nowMs
      (some decision, arbiter)
  | .requestFeedback source cue nowMs =>
      let (decision, arbiter) := arbiter.requestFeedback source cue nowMs
      (some decision, arbiter)
  | .tick nowMs =>
      let (tick, arbiter) := arbiter.tick nowMs
      (tick.deferredStart, arbiter)

variable {arbiter : BuzzerArbiter} {operation : BuzzerOperation} {cue : PendingCue}
  {nowMs : ℕ}

theorem isActive_eq (arbiter : BuzzerArbiter) : arbiter.isActive = arbiter.activeCue.isSome :=
  Option.isSome_map.symm

theorem isActive_of_activeCue {active : BuzzerCueId} (h : arbiter.activeCue = some active) :
    arbiter.isActive = true := by
  rw [isActive_eq, h]
  rfl

/-! ## Silent slots -/

/-- Each slot belongs to a safety state, and the alarm plays alone. -/
structure Fits (arbiter : BuzzerArbiter) : Prop where
  protection : arbiter.safetyState = .protectionActive →
    arbiter.activeCue = none ∨ arbiter.activeCue = some .protectionAlarm
  feedback : arbiter.pendingFeedback.isSome = true → arbiter.safetyState = .normal
  attention : arbiter.pendingAttention.isSome = true → arbiter.safetyState = .attentionPending
  silent : arbiter.controller.Silent

/-- What holds between two operations: nothing waits unless something plays. -/
structure Invariant (arbiter : BuzzerArbiter) : Prop extends Fits arbiter where
  playing : arbiter.pendingFeedback.isSome = true ∨ arbiter.pendingAttention.isSome = true →
    arbiter.isActive = true

theorem invariant_new : new.Invariant where
  protection := fun h => by cases h
  feedback := fun h => by cases h
  attention := fun h => by cases h
  silent := fun _ => rfl
  playing := fun h => by rcases h with h | h <;> cases h

theorem invariant_of_empty {controller : BuzzerController} {safetyState : AudibleSafetyState}
    (hprotection : safetyState = .protectionActive →
      controller.activeCue = none ∨ controller.activeCue = some .protectionAlarm)
    (hsilent : controller.Silent) : Invariant ⟨controller, safetyState, none, none⟩ where
  protection := hprotection
  feedback := fun h => by cases h
  attention := fun h => by cases h
  silent := hsilent
  playing := fun h => by rcases h with h | h <;> cases h

theorem Fits.play (h : arbiter.Fits) {cue : BuzzerCueId}
    (hcue : arbiter.safetyState = .protectionActive → cue = .protectionAlarm) (nowMs : ℕ) :
    (arbiter.play cue nowMs).Invariant where
  protection := fun hsafety => .inr (congrArg some (hcue hsafety))
  __ := h
  silent := arbiter.controller.silent_play cue nowMs
  playing := fun _ => rfl

theorem invariant_activateProtection (arbiter : BuzzerArbiter) (source : BuzzerCueSource)
    (nowMs : ℕ) : (arbiter.activateProtection source nowMs).2.Invariant :=
  invariant_of_empty (fun _ => .inr rfl) (arbiter.controller.silent_play _ nowMs)

theorem Invariant.requestProtectionReplay (h : arbiter.Invariant) (source : BuzzerCueSource)
    (nowMs : ℕ) : (arbiter.requestProtectionReplay source nowMs).2.Invariant := by
  unfold BuzzerArbiter.requestProtectionReplay
  split_ifs
  · exact h
  · exact h
  · exact h.toFits.play (fun _ => rfl) nowMs

theorem Invariant.enterAttentionPending (h : arbiter.Invariant) :
    arbiter.enterAttentionPending.2.Invariant := by
  unfold BuzzerArbiter.enterAttentionPending
  dsimp only
  split
  · exact invariant_of_empty (fun _ => .inl rfl) arbiter.controller.silent_stop
  · exact invariant_of_empty (fun h => by cases h) h.silent

theorem Invariant.clearAttention (h : arbiter.Invariant) : arbiter.clearAttention.2.Invariant := by
  unfold BuzzerArbiter.clearAttention
  dsimp only
  split
  · exact invariant_of_empty (fun _ => .inl rfl) arbiter.controller.silent_stop
  · exact invariant_of_empty (fun _ => .inl rfl) arbiter.controller.silent_stop
  · exact invariant_of_empty (fun h => by cases h) h.silent

theorem Invariant.requestAttentionReminder (h : arbiter.Invariant) (source : BuzzerCueSource)
    (nowMs : ℕ) : (arbiter.requestAttentionReminder source nowMs).2.Invariant := by
  unfold BuzzerArbiter.requestAttentionReminder
  split
  · exact h
  · next hsafety =>
      have hsafety : arbiter.safetyState = .attentionPending := not_not.mp hsafety
      split
      · exact h.toFits.play (fun heq => by cases hsafety.symm.trans heq) nowMs
      · exact h
      · exact h
      · next hactive =>
          split
          · exact h
          · exact ⟨{ h with attention := fun _ => hsafety },
              fun _ => isActive_of_activeCue (by assumption)⟩

theorem Invariant.requestFeedback (h : arbiter.Invariant) (source : BuzzerCueSource)
    (cue : BuzzerCueId) (nowMs : ℕ) : (arbiter.requestFeedback source cue nowMs).2.Invariant := by
  unfold BuzzerArbiter.requestFeedback
  split
  · exact h
  · split
    · exact h
    · next hsafety =>
        have hsafety : arbiter.safetyState = .normal := not_not.mp hsafety
        split
        · exact h.toFits.play (fun heq => by cases hsafety.symm.trans heq) nowMs
        · next hactive =>
            have hqueued : ∀ pending : PendingCue,
                { arbiter with pendingFeedback := some pending }.Invariant := fun pending =>
              ⟨{ h with feedback := fun _ => hsafety }, fun _ => not_not.mp hactive⟩
            dsimp only
            split
            · exact hqueued _
            · split
              · exact h
              · exact hqueued _

theorem Fits.startDeferred (h : arbiter.Fits) (nowMs : ℕ) :
    (arbiter.startDeferred nowMs).2.Invariant := by
  unfold BuzzerArbiter.startDeferred
  split
  · next hactive => exact ⟨h, fun _ => hactive⟩
  · split
    · next hsafety =>
        have hfeedback : ¬arbiter.pendingFeedback.isSome = true := fun hpending => by
          cases hsafety.symm.trans (h.feedback hpending)
        split
        · next hnone =>
            refine ⟨h, fun hpending => ?_⟩
            rw [hnone] at hpending
            exact absurd hpending (not_or.mpr ⟨hfeedback, by decide⟩)
        · have htaken : Fits { arbiter with pendingAttention := none } :=
            { h with attention := (fun h => by cases h) }
          exact htaken.play (fun heq => by cases hsafety.symm.trans heq) nowMs
    · split
      · next hnot hsafety =>
          have hattention : ¬arbiter.pendingAttention.isSome = true := fun hpending =>
            hnot (h.attention hpending)
          split
          · next hnone =>
              refine ⟨h, fun hpending => ?_⟩
              rw [hnone] at hpending
              exact absurd hpending (not_or.mpr ⟨by decide, hattention⟩)
          · have htaken : Fits { arbiter with pendingFeedback := none } :=
              { h with feedback := (fun h => by cases h) }
            exact htaken.play (fun heq => by cases hsafety.symm.trans heq) nowMs
      · next hattention hnormal =>
          refine ⟨h, fun hpending => ?_⟩
          rcases hpending with hpending | hpending
          · exact absurd (h.feedback hpending) hnormal
          · exact absurd (h.attention hpending) hattention

theorem Fits.tickController (h : arbiter.Fits) (nowMs : ℕ) :
    (arbiter.tickController nowMs).Fits where
  protection := by
    intro hsafety
    rcases arbiter.controller.activeCue_tick nowMs with hnone | ⟨hsame, -⟩
    · exact .inl hnone
    · exact (h.protection hsafety).imp hsame.trans hsame.trans
  __ := h
  silent := arbiter.controller.silent_tick nowMs

theorem Invariant.tick (h : arbiter.Invariant) (nowMs : ℕ) : (arbiter.tick nowMs).2.Invariant :=
  (h.toFits.tickController nowMs).startDeferred nowMs

theorem Invariant.perform (h : arbiter.Invariant) (operation : BuzzerOperation) :
    (arbiter.perform operation).2.Invariant := by
  cases operation with
  | activateProtection source nowMs => exact invariant_activateProtection arbiter source nowMs
  | requestProtectionReplay source nowMs => exact h.requestProtectionReplay source nowMs
  | enterAttentionPending => exact h.enterAttentionPending
  | clearAttention => exact h.clearAttention
  | requestAttentionReminder source nowMs => exact h.requestAttentionReminder source nowMs
  | requestFeedback source cue nowMs => exact h.requestFeedback source cue nowMs
  | tick nowMs => exact h.tick nowMs

end BuzzerArbiter

end FluxPurr.Buzzer
