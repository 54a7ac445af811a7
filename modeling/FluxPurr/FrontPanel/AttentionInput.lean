import FluxPurr.Buzzer.FaultAttention
import FluxPurr.FrontPanel.Recogniser

/-!
# Keys while an alarm wants attention

The runtime loop samples the keys in every iteration.  A key that goes down while an
over-temperature attention is pending acknowledges it, and the loop then suppresses the events of
the recogniser until it takes the press to be over.

What the rest of the loop does between two iterations is an input of the next: the attention and
the fault may come and go at any time, and so may the page and with it the gestures that are taken.
-/

namespace FluxPurr.FrontPanel

open FluxPurr.Buzzer (FaultAttention BuzzerRuntime)

/-- `should_consume_attention_raw_input`. -/
def shouldConsumeAttentionRawInput (attentionPending suppressingCurrentInput : Bool)
    (previousRawState currentRawState : FrontPanelRawState) : Bool :=
  attentionPending && !suppressingCurrentInput && currentRawState ≠ previousRawState &&
    currentRawState.pressedMask ≠ 0

/-- `should_clear_attention_ack_suppression`. -/
def shouldClearAttentionAckSuppression (suppressingCurrentInput waitsForDelayedEvent
    suppressedEventSeen : Bool) (currentRawState : FrontPanelRawState) (clearAfterMs : Option ℕ)
    (nowMs : ℕ) : Bool :=
  suppressingCurrentInput && currentRawState.pressedMask = 0 &&
    (!waitsForDelayedEvent || suppressedEventSeen ||
      decide (∃ deadline ∈ clearAfterMs, deadline ≤ nowMs))

/-- What becomes of an event of the recogniser. -/
inductive EventOutcome where
  /-- A pairing request is waiting for the keys to be released. -/
  | ignored
  | suppressed
  | acknowledges
  /-- To `FrontPanelUiState::handle_event`. -/
  | delivered
deriving DecidableEq, Repr

/-- The fields of the runtime loop that the keys concern. -/
structure RuntimeLoopState where
  controller : FrontPanelInputController
  lastRawState : FrontPanelRawState
  suppressPairingInputUntilReleased : Bool
  suppressAttentionAckInput : Bool
  suppressAttentionAckWaitsForEvent : Bool
  suppressAttentionAckEventSeen : Bool
  suppressAttentionAckClearDelayMs : ℕ
  suppressAttentionAckClearAfterMs : Option ℕ

/-- One iteration, as far as it is not up to the keys' own code. -/
structure RuntimeInput where
  nowMs : ℕ
  rawState : FrontPanelRawState
  /-- Of the page that is shown when the keys are sampled. -/
  capabilities : FrontPanelGestureCapabilities
  pairingOpenedByUsb : Bool
  attention : FaultAttention
  overtempActive : Bool
  buzzer : BuzzerRuntime
  /-- Of the page that is shown when the sample is processed. -/
  pageCapabilities : FrontPanelGestureCapabilities

namespace RuntimeLoopState

def new : RuntimeLoopState where
  controller := .standard
  lastRawState := .idle
  suppressPairingInputUntilReleased := false
  suppressAttentionAckInput := false
  suppressAttentionAckWaitsForEvent := false
  suppressAttentionAckEventSeen := false
  suppressAttentionAckClearDelayMs := frontpanelDebounceMs
  suppressAttentionAckClearAfterMs := none

/-- The gestures of the first key that is down. -/
def firstGestures (input : RuntimeInput) : Option KeyGestureSet :=
  input.rawState.firstPressed.map fun rawKey =>
    input.pageCapabilities.gesturesFor (logicalFromRaw rawKey)

/-- The suppression that begins with an acknowledgement. -/
def beginSuppression (state : RuntimeLoopState) (input : RuntimeInput) : RuntimeLoopState :=
  { state with
    suppressAttentionAckInput := true
    suppressAttentionAckEventSeen := false
    suppressAttentionAckClearAfterMs := none
    suppressAttentionAckClearDelayMs :=
      if (firstGestures input).any fun gestures => gestures.supports .doublePress then
        frontpanelDoubleClickMs + frontpanelDebounceMs
      else frontpanelDebounceMs
    suppressAttentionAckWaitsForEvent :=
      (firstGestures input).any fun gestures =>
        gestures.supports .shortPress || gestures.supports .doublePress ||
          gestures.supports .longPress }

/-- The state and the attention after `runtime_process_frontpanel_raw_state`, and whether the keys
acknowledged it. -/
def processFrontpanelRawState (state : RuntimeLoopState) (input : RuntimeInput) :
    RuntimeLoopState × FaultAttention × Bool :=
  if input.rawState = state.lastRawState then (state, input.attention, false)
  else
    let consumes := shouldConsumeAttentionRawInput
      (input.attention.overtempAttentionRequiresAck input.overtempActive)
      state.suppressAttentionAckInput state.lastRawState input.rawState
    let (acknowledged, attention, _) :=
      if consumes then
        input.attention.acknowledgeOvertempAttention input.overtempActive input.buzzer
      else (false, input.attention, input.buzzer)
    let state := if acknowledged then state.beginSuppression input else state
    ({ state with lastRawState := input.rawState }, attention, acknowledged)

/-- The loop over the events of a sample. -/
def processEvents (state : RuntimeLoopState) (attention : FaultAttention) (overtempActive : Bool)
    (buzzer : BuzzerRuntime) :
    List SampledEvent → RuntimeLoopState × List (SampledEvent × EventOutcome)
  | [] => (state, [])
  | event :: events =>
      if state.suppressPairingInputUntilReleased then
        let (last, outcomes) := state.processEvents attention overtempActive buzzer events
        (last, (event, .ignored) :: outcomes)
      else if state.suppressAttentionAckInput then
        let (last, outcomes) := { state with suppressAttentionAckEventSeen := true }.processEvents
          attention overtempActive buzzer events
        (last, (event, .suppressed) :: outcomes)
      else
        let (acknowledged, attention, buzzer) :=
          attention.acknowledgeOvertempAttention overtempActive buzzer
        let (last, outcomes) := state.processEvents attention overtempActive buzzer events
        (last, (event, if acknowledged then .acknowledges else .delivered) :: outcomes)

/-- The suppression has a deadline from when no key is down any more. -/
def setDeadline (state : RuntimeLoopState) (input : RuntimeInput) : RuntimeLoopState :=
  if state.suppressAttentionAckInput ∧ state.suppressAttentionAckWaitsForEvent ∧
      input.rawState.pressedMask = 0 ∧ state.suppressAttentionAckClearAfterMs = none then
    { state with
      suppressAttentionAckClearAfterMs :=
        some (input.nowMs + state.suppressAttentionAckClearDelayMs) }
  else state

def liftDue (state : RuntimeLoopState) (input : RuntimeInput) : Bool :=
  shouldClearAttentionAckSuppression state.suppressAttentionAckInput
    state.suppressAttentionAckWaitsForEvent state.suppressAttentionAckEventSeen input.rawState
    state.suppressAttentionAckClearAfterMs input.nowMs

def lift (state : RuntimeLoopState) : RuntimeLoopState :=
  { state with
    suppressAttentionAckInput := false
    suppressAttentionAckWaitsForEvent := false
    suppressAttentionAckEventSeen := false
    suppressAttentionAckClearDelayMs := frontpanelDebounceMs
    suppressAttentionAckClearAfterMs := none }

def releasePairing (state : RuntimeLoopState) (input : RuntimeInput) : RuntimeLoopState :=
  if state.suppressPairingInputUntilReleased ∧ input.pairingOpenedByUsb = false ∧
      input.rawState.firstPressed = none then
    { state with suppressPairingInputUntilReleased := false }
  else state

/-- Whether keys that have gone down acknowledge an attention. -/
def keysAcknowledge (state : RuntimeLoopState) (input : RuntimeInput) : Bool :=
  shouldConsumeAttentionRawInput
    (input.attention.overtempAttentionRequiresAck input.overtempActive)
    state.suppressAttentionAckInput state.lastRawState input.rawState

/-- The sample that an iteration takes. -/
def sample (state : RuntimeLoopState) (input : RuntimeInput) :
    FrontPanelInputController × List SampledEvent :=
  state.controller.sampleWithCapabilities input.nowMs input.rawState input.capabilities

/-- After the sample has been taken, and a pairing request over USB. -/
def sampled (state : RuntimeLoopState) (input : RuntimeInput) : RuntimeLoopState :=
  { state with
    controller := (state.sample input).1
    suppressPairingInputUntilReleased :=
      state.suppressPairingInputUntilReleased || input.pairingOpenedByUsb }

/-- What an iteration does with a sample, up to the end of its events. -/
structure Handled where
  state : RuntimeLoopState
  /-- Whether keys that went down acknowledged the attention. -/
  acknowledgedByKeys : Bool
  outcomes : List (SampledEvent × EventOutcome)

def handle (state : RuntimeLoopState) (input : RuntimeInput) : Handled :=
  let (raw, attention, acknowledged) := (state.sampled input).processFrontpanelRawState input
  let (last, outcomes) :=
    raw.processEvents attention input.overtempActive input.buzzer (state.sample input).2
  ⟨last, acknowledged, outcomes⟩

/-- The state at the end of an iteration, before the suppression is lifted. -/
def beforeLift (state : RuntimeLoopState) (input : RuntimeInput) : RuntimeLoopState :=
  ((state.handle input).state.releasePairing input).setDeadline input

/-- `runtime_process_frontpanel_input`, with the sample before it. -/
def iterate (state : RuntimeLoopState) (input : RuntimeInput) : RuntimeLoopState :=
  let last := state.beforeLift input
  if last.liftDue input then last.lift else last

/-! ## What an iteration does -/

variable {state : RuntimeLoopState} {input : RuntimeInput}
  {attention : FaultAttention} {overtempActive : Bool} {buzzer : BuzzerRuntime}
  {events : List SampledEvent}

theorem acknowledge_eq_requiresAck :
    (attention.acknowledgeOvertempAttention overtempActive buzzer).1 =
      attention.overtempAttentionRequiresAck overtempActive := by
  unfold FaultAttention.acknowledgeOvertempAttention
  cases attention.overtempAttentionRequiresAck overtempActive
  · rfl
  · rfl

theorem requiresAck_acknowledge : (attention.acknowledgeOvertempAttention overtempActive
      buzzer).2.1.overtempAttentionRequiresAck overtempActive = false := by
  unfold FaultAttention.acknowledgeOvertempAttention
  split_ifs with hrequired
  · simpa using hrequired
  · simp [FaultAttention.overtempAttentionRequiresAck]
  · simp [FaultAttention.overtempAttentionRequiresAck]

theorem processEvents_keeps : (state.processEvents attention overtempActive buzzer events).1 =
      { state with
        suppressAttentionAckEventSeen :=
          (state.processEvents attention overtempActive buzzer
            events).1.suppressAttentionAckEventSeen } := by
  induction events generalizing state attention buzzer with
  | nil => rfl
  | cons event events ih =>
    unfold processEvents
    split_ifs
    · exact ih
    · exact @ih { state with suppressAttentionAckEventSeen := true } attention buzzer
    · exact ih

theorem map_fst_processEvents :
    (state.processEvents attention overtempActive buzzer events).2.map Prod.fst = events := by
  induction events generalizing state attention buzzer with
  | nil => rfl
  | cons event events ih =>
    unfold processEvents
    split_ifs
    · exact congrArg (event :: ·) ih
    · exact congrArg (event :: ·) ih
    · exact congrArg (event :: ·) ih

variable {event : SampledEvent}

/-- Events are suppressed while the suppression is on, and only then. -/
theorem processEvents_outcome {outcome : EventOutcome} (hmem : (event, outcome) ∈
      (state.processEvents attention overtempActive buzzer events).2) :
    outcome = .ignored ∨
      (outcome = .suppressed ↔ state.suppressAttentionAckInput = true) := by
  induction events generalizing state attention buzzer with
  | nil => exact absurd hmem List.not_mem_nil
  | cons first events ih =>
    unfold processEvents at hmem
    split_ifs at hmem with hpairing hsuppress
    · rcases List.mem_cons.mp hmem with heq | hmem
      · exact .inl (Prod.mk.inj heq).2
      · exact ih hmem
    · rcases List.mem_cons.mp hmem with heq | hmem
      · exact .inr (iff_of_true (Prod.mk.inj heq).2 hsuppress)
      · exact @ih { state with suppressAttentionAckEventSeen := true } attention buzzer hmem
    · rcases List.mem_cons.mp hmem with heq | hmem
      · refine .inr (iff_of_false ?_ hsuppress)
        rw [(Prod.mk.inj heq).2]
        split_ifs <;> decide
      · exact ih hmem

theorem not_acknowledges_of_not_required
    (hrequired : attention.overtempAttentionRequiresAck overtempActive = false) :
    (event, .acknowledges) ∉ (state.processEvents attention overtempActive buzzer events).2 := by
  induction events generalizing state attention buzzer with
  | nil => exact List.not_mem_nil
  | cons first events ih =>
    unfold processEvents
    split_ifs
    · simp [ih hrequired]
    · simp [ih hrequired]
    · have hnot := @acknowledge_eq_requiresAck attention overtempActive buzzer
      have hafter := @requiresAck_acknowledge attention overtempActive buzzer
      generalize attention.acknowledgeOvertempAttention overtempActive buzzer = result at *
      obtain ⟨acknowledged, attention', buzzer'⟩ := result
      obtain rfl : acknowledged = false := hnot.trans hrequired
      intro hmem
      rcases List.mem_cons.mp hmem with heq | hmem
      · exact absurd (Prod.mk.inj heq).2 (by decide)
      · exact @ih state attention' buzzer' hafter hmem

theorem not_acknowledges_of_pairing (hpairing : state.suppressPairingInputUntilReleased = true) :
    (event, .acknowledges) ∉ (state.processEvents attention overtempActive buzzer events).2 := by
  induction events with
  | nil => exact List.not_mem_nil
  | cons first events ih =>
    unfold processEvents
    rw [if_pos hpairing]
    simp [ih]

/-- Only the first event of a sample can acknowledge, and it needs an attention for that. -/
theorem acknowledges_head (hmem : (event, .acknowledges) ∈
      (state.processEvents attention overtempActive buzzer events).2) :
    event ∈ events.head? ∧ state.suppressPairingInputUntilReleased = false ∧
      attention.overtempAttentionRequiresAck overtempActive = true := by
  have hrequired : attention.overtempAttentionRequiresAck overtempActive = true := by
    by_contra hrequired
    exact not_acknowledges_of_not_required (by simpa using hrequired) hmem
  have hpairing : state.suppressPairingInputUntilReleased = false := by
    by_contra hpairing
    exact not_acknowledges_of_pairing (by simpa using hpairing) hmem
  have hsuppress := processEvents_outcome hmem
  simp only [reduceCtorEq, false_or, false_iff] at hsuppress
  refine ⟨?_, hpairing, hrequired⟩
  cases events with
  | nil => exact absurd hmem List.not_mem_nil
  | cons first events =>
    unfold processEvents at hmem
    rw [if_neg (by simp [hpairing]), if_neg hsuppress] at hmem
    have hafter := @requiresAck_acknowledge attention overtempActive buzzer
    generalize attention.acknowledgeOvertempAttention overtempActive buzzer = result at *
    obtain ⟨acknowledged, attention', buzzer'⟩ := result
    rcases List.mem_cons.mp hmem with heq | hmem
    · exact congrArg some (Prod.mk.inj heq).1.symm
    · exact absurd hmem (not_acknowledges_of_not_required hafter)

/-! ### The whole of an iteration -/

/-- Keys acknowledge only while nothing is suppressed, and then begin a suppression. -/
theorem processFrontpanelRawState_cases (state : RuntimeLoopState) (input : RuntimeInput) :
    (state.keysAcknowledge input = false ∧ ∃ lastRawState,
        state.processFrontpanelRawState input =
          ({ state with lastRawState }, input.attention, false)) ∨
      (state.keysAcknowledge input = true ∧ state.suppressAttentionAckInput = false ∧
        ∃ attention, state.processFrontpanelRawState input =
          ({ state.beginSuppression input with lastRawState := input.rawState }, attention,
            true)) := by
  unfold processFrontpanelRawState
  by_cases hraw : input.rawState = state.lastRawState
  · rw [if_pos hraw]
    refine .inl ⟨?_, state.lastRawState, rfl⟩
    simp [keysAcknowledge, shouldConsumeAttentionRawInput, hraw]
  · rw [if_neg hraw]
    dsimp only
    have hkeys : state.keysAcknowledge input = shouldConsumeAttentionRawInput
        (input.attention.overtempAttentionRequiresAck input.overtempActive)
        state.suppressAttentionAckInput state.lastRawState input.rawState := rfl
    rw [← hkeys]
    cases hconsumes : state.keysAcknowledge input with
    | false => exact .inl ⟨rfl, input.rawState, rfl⟩
    | true =>
      rw [hconsumes] at hkeys
      have hconsumed := hkeys.symm
      simp only [shouldConsumeAttentionRawInput, Bool.and_eq_true, Bool.not_eq_true'] at hconsumed
      rw [if_pos rfl]
      have hrequired := @acknowledge_eq_requiresAck input.attention input.overtempActive
        input.buzzer
      generalize input.attention.acknowledgeOvertempAttention input.overtempActive
        input.buzzer = result at hrequired
      obtain ⟨acknowledged, attention, buzzer⟩ := result
      obtain rfl : acknowledged = true := hrequired.trans hconsumed.1.1.1
      exact .inr ⟨rfl, hconsumed.1.1.2, attention, rfl⟩

/-- The state after the raw keys have been looked at. -/
def rawProcessed (state : RuntimeLoopState) (input : RuntimeInput) : RuntimeLoopState :=
  ((state.sampled input).processFrontpanelRawState input).1

structure RawProcessed (state : RuntimeLoopState) (input : RuntimeInput) : Prop where
  acknowledged : (state.handle input).acknowledgedByKeys = state.keysAcknowledge input
  suppress : (state.rawProcessed input).suppressAttentionAckInput =
    (state.suppressAttentionAckInput || state.keysAcknowledge input)
  controller : (state.rawProcessed input).controller = (state.sample input).1
  delay : 0 < state.suppressAttentionAckClearDelayMs →
    0 < (state.rawProcessed input).suppressAttentionAckClearDelayMs
  pairing : (state.rawProcessed input).suppressPairingInputUntilReleased =
    (state.suppressPairingInputUntilReleased || input.pairingOpenedByUsb)

theorem rawProcessed_spec (state : RuntimeLoopState) (input : RuntimeInput) :
    RawProcessed state input := by
  have hhandle : (state.handle input).acknowledgedByKeys =
      ((state.sampled input).processFrontpanelRawState input).2.2 := rfl
  have hkeys : (state.sampled input).keysAcknowledge input = state.keysAcknowledge input := rfl
  rcases processFrontpanelRawState_cases (state.sampled input) input with
    ⟨hack, lastRawState, hraw⟩ | ⟨hack, hsuppress, attention, hraw⟩
  · rw [hraw] at hhandle
    rw [hkeys] at hack
    refine ⟨hhandle.trans hack.symm, ?_, ?_, ?_, ?_⟩
    · rw [rawProcessed, hraw, hack, Bool.or_false]
      rfl
    · rw [rawProcessed, hraw]
      rfl
    · rw [rawProcessed, hraw]
      exact id
    · rw [rawProcessed, hraw]
      rfl
  · rw [hraw] at hhandle
    rw [hkeys] at hack
    refine ⟨hhandle.trans hack.symm, ?_, ?_, ?_, ?_⟩
    · rw [rawProcessed, hraw, hack, Bool.or_true]
      rfl
    · rw [rawProcessed, hraw]
      rfl
    · intro _
      rw [rawProcessed, hraw]
      simp only [beginSuppression]
      split_ifs
      · exact Nat.succ_pos _
      · exact Nat.succ_pos _
    · rw [rawProcessed, hraw]
      rfl

@[simp] theorem handle_acknowledgedByKeys (state : RuntimeLoopState) (input : RuntimeInput) :
    (state.handle input).acknowledgedByKeys = state.keysAcknowledge input :=
  (rawProcessed_spec state input).acknowledged

/-- Without an acknowledgement by keys the events find the attention as it is. -/
theorem handle_outcomes (state : RuntimeLoopState) (input : RuntimeInput) :
    ∃ attention, (state.handle input).outcomes =
        ((state.rawProcessed input).processEvents attention input.overtempActive input.buzzer
          (state.sample input).2).2 ∧
      (state.keysAcknowledge input = false → attention = input.attention) := by
  refine ⟨((state.sampled input).processFrontpanelRawState input).2.1, rfl, ?_⟩
  intro hkeys
  rcases processFrontpanelRawState_cases (state.sampled input) input with
    ⟨-, lastRawState, hraw⟩ | ⟨hack, -⟩
  · rw [hraw]
  · have hsame : (state.sampled input).keysAcknowledge input = state.keysAcknowledge input := rfl
    rw [hsame, hkeys] at hack
    cases hack

/-- What an iteration has made of the state when it comes to lifting the suppression. -/
structure BeforeLift (state : RuntimeLoopState) (input : RuntimeInput) : Prop where
  suppress : (state.beforeLift input).suppressAttentionAckInput =
    (state.suppressAttentionAckInput || state.keysAcknowledge input)
  controller : (state.beforeLift input).controller = (state.sample input).1
  delay : 0 < state.suppressAttentionAckClearDelayMs →
    0 < (state.beforeLift input).suppressAttentionAckClearDelayMs

theorem handle_state_eq (state : RuntimeLoopState) (input : RuntimeInput) :
    ∃ seen, (state.handle input).state =
      { state.rawProcessed input with suppressAttentionAckEventSeen := seen } :=
  ⟨_, processEvents_keeps⟩

theorem beforeLift_spec (state : RuntimeLoopState) (input : RuntimeInput) :
    BeforeLift state input := by
  obtain ⟨seen, hhandle⟩ := handle_state_eq state input
  have hraw := rawProcessed_spec state input
  have hpairing : ∃ pairing, (state.handle input).state.releasePairing input =
      { (state.handle input).state with suppressPairingInputUntilReleased := pairing } := by
    unfold releasePairing
    split_ifs
    · exact ⟨_, rfl⟩
    · exact ⟨_, rfl⟩
  obtain ⟨pairing, hpairing⟩ := hpairing
  have hdeadline : ∃ deadline, state.beforeLift input =
      { (state.handle input).state with
        suppressPairingInputUntilReleased := pairing
        suppressAttentionAckClearAfterMs := deadline } := by
    unfold beforeLift setDeadline
    rw [hpairing]
    split_ifs
    · exact ⟨_, rfl⟩
    · exact ⟨_, rfl⟩
  obtain ⟨deadline, heq⟩ := hdeadline
  refine ⟨?_, ?_, ?_⟩
  · rw [heq, hhandle]
    exact hraw.suppress
  · rw [heq, hhandle]
    exact hraw.controller
  · rw [heq, hhandle]
    exact hraw.delay

/-- An iteration leaves the suppression as it was before lifting, or lifts it with no key down. -/
theorem iterate_cases (state : RuntimeLoopState) (input : RuntimeInput) :
    ((state.beforeLift input).liftDue input = false ∧
        state.iterate input = state.beforeLift input) ∨
      ((state.beforeLift input).liftDue input = true ∧ input.rawState.pressedMask = 0 ∧
        state.iterate input = (state.beforeLift input).lift) := by
  unfold iterate
  dsimp only
  cases hdue : (state.beforeLift input).liftDue input with
  | false => exact .inl ⟨rfl, rfl⟩
  | true =>
    refine .inr ⟨rfl, ?_, rfl⟩
    unfold liftDue shouldClearAttentionAckSuppression at hdue
    simp only [Bool.and_eq_true, decide_eq_true_eq] at hdue
    exact hdue.1.2

end RuntimeLoopState

end FluxPurr.FrontPanel
