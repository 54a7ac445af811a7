import FluxPurr.FrontPanel.AttentionInput
import FluxPurr.FrontPanel.PressRecord
import FluxPurr.FrontPanel.UiState
import FluxPurr.Runs.Throughout
import Mathlib.Data.List.Pairwise

/-!
# The press that acknowledges an alarm

An acknowledgement should be all that its key press does, and it should swallow no press that comes
when it is over.  `AttentionRun` keeps, beside the runtime loop, which presses have acknowledged an
attention and when the suppression that the last one began should be over.

The loop keeps to both (`Behaves`) where four things do not happen (`Careful`): the recogniser still
has to give the short press of an acknowledging press when the suppression is over; the contacts of
such a press bounce then; a press begins when the suppression should be over and still lasts; and a
held key that repeats acknowledges with its long press.
-/

namespace FluxPurr.FrontPanel

open FluxPurr.Runs
open RuntimeLoopState
open KeyTracker

/-- The runtime loop, and what is to be known about the presses. -/
structure AttentionRun where
  state : RuntimeLoopState
  records : RawFrontPanelKey → PressRecord
  /-- The presses that have acknowledged an attention. -/
  spent : List (RawFrontPanelKey × ℕ)
  /-- The keys that were down at the last acknowledgement by keys. -/
  acknowledgingKeys : FrontPanelRawState
  /-- When its suppression should be over, from the release of these keys on. -/
  windowEndMs : Option ℕ
  lastMs : ℕ

namespace AttentionRun

def new : AttentionRun := ⟨.new, fun _ => .new, [], .idle, none, 0⟩

variable {run : AttentionRun} {input : RuntimeInput} {key : RawFrontPanelKey}

def tracker (run : AttentionRun) (key : RawFrontPanelKey) : KeyTracker :=
  run.state.controller.trackers key

def reading (run : AttentionRun) (input : RuntimeInput) (key : RawFrontPanelKey) :
    KeyTracker.Reading :=
  run.state.controller.reading input.nowMs input.rawState input.capabilities key

/-- The records after the sample of an iteration. -/
def noted (run : AttentionRun) (input : RuntimeInput) (key : RawFrontPanelKey) : PressRecord :=
  (run.tracker key).noted (run.records key) (run.reading input key)

/-- The presses that an event of the iteration is of. -/
def presses (run : AttentionRun) (input : RuntimeInput) (event : SampledEvent) : List Press :=
  event.site.presses (run.records event.event.rawKey) (run.noted input event.event.rawKey)

/-- The presses of the keys that are down, where they acknowledge. -/
def spentByKeys (run : AttentionRun) (input : RuntimeInput) : List (RawFrontPanelKey × ℕ) :=
  if (run.state.handle input).acknowledgedByKeys then
    (RawFrontPanelKey.all.filter input.rawState.isPressed).map fun key =>
      (key, (run.noted input key).current.number)
  else []

/-- The presses of the events that acknowledge. -/
def spentByEvents (run : AttentionRun) (input : RuntimeInput)
    (outcomes : List (SampledEvent × EventOutcome)) : List (RawFrontPanelKey × ℕ) :=
  outcomes.flatMap fun outcome =>
    if outcome.2 = .acknowledges then
      (run.presses input outcome.1).map fun press => (outcome.1.event.rawKey, press.number)
    else []

/-- The end of the window that an iteration finds. -/
def window (run : AttentionRun) (input : RuntimeInput) : Option ℕ :=
  if (run.state.handle input).acknowledgedByKeys then none else run.windowEndMs

def keysAfter (run : AttentionRun) (input : RuntimeInput) : FrontPanelRawState :=
  if (run.state.handle input).acknowledgedByKeys then input.rawState else run.acknowledgingKeys

/-- The window ends a delay after the acknowledging keys are up. -/
def windowAfter (run : AttentionRun) (input : RuntimeInput) : Option ℕ :=
  if RawFrontPanelKey.all.any fun key =>
      (run.keysAfter input).isPressed key && input.rawState.isPressed key then none
  else
    some ((run.window input).getD
      (input.nowMs + (run.state.beforeLift input).suppressAttentionAckClearDelayMs))

def next (run : AttentionRun) (input : RuntimeInput) : AttentionRun where
  state := run.state.iterate input
  records := run.noted input
  spent := run.spent ++ run.spentByKeys input ++
    run.spentByEvents input (run.state.handle input).outcomes
  acknowledgingKeys := run.keysAfter input
  windowEndMs := run.windowAfter input
  lastMs := input.nowMs

def step (run : AttentionRun) (input : RuntimeInput) : Option AttentionRun := some (run.next input)

/-- No event of an acknowledging press is delivered, and no press that begins when the suppression
should be over loses an event to it. -/
structure Behaves (run : AttentionRun) (input : RuntimeInput) : Prop where
  silent : ∀ before event after,
    (run.state.handle input).outcomes = before ++ (event, .delivered) :: after →
      ∀ press ∈ run.presses input event,
        (event.event.rawKey, press.number) ∉
          run.spent ++ run.spentByKeys input ++ run.spentByEvents input before
  delivers : ∀ event, (event, .suppressed) ∈ (run.state.handle input).outcomes →
    ∀ press ∈ run.presses input event, ∀ windowEndMs ∈ run.window input, press.begunMs < windowEndMs

/-- The recogniser has a short press of an acknowledging press to give. -/
def Unfinished (run : AttentionRun) : Prop :=
  ∃ key,
    ((run.tracker key).pendingShortReleaseMs.isSome ∧
        (key, (run.records key).pending.number) ∈ run.spent) ∨
      ((run.tracker key).pressStartedMs.isSome ∧ (run.tracker key).longFired = false ∧
        (key, (run.records key).current.number) ∈ run.spent)

/-- What an iteration does not find. -/
structure Careful (run : AttentionRun) (input : RuntimeInput) : Prop where
  /-- The suppression has not been lifted too early. -/
  finished : run.state.suppressAttentionAckInput = false → ¬ run.Unfinished
  /-- An acknowledging press that is over for the loop does not bounce. -/
  settled : run.state.suppressAttentionAckInput = false →
    run.state.keysAcknowledge input = false → ∀ key,
      (run.tracker key).DoesNotBounce (run.records key) (fun number => (key, number) ∈ run.spent)
        (input.rawState.isPressed key)
  /-- No press begins while the suppression lasts beyond its window. -/
  inTime : run.state.suppressAttentionAckInput = true → ∀ windowEndMs ∈ run.windowEndMs, ∀ key,
    PressRecord.Begins (run.tracker key) (input.rawState.isPressed key) → input.nowMs < windowEndMs
  /-- A key that is held and repeats does not acknowledge by an event. -/
  noRepetition : input.attention.overtempAttentionRequiresAck input.overtempActive = true →
    run.state.suppressAttentionAckInput = false → run.state.keysAcknowledge input = false →
      (run.state.sampled input).suppressPairingInputUntilReleased = false →
        ∀ event ∈ (run.state.sample input).2.head?,
          event.site = .long ∨ event.site = .repetition → repeats event.event.key = false

/-- The times of the samples do not decrease. -/
def InOrder (run : AttentionRun) (input : RuntimeInput) : Prop := run.lastMs ≤ input.nowMs

instance : Decidable (run.InOrder input) := inferInstanceAs (Decidable (_ ≤ _))

end AttentionRun

/-! ## The invariant -/

namespace AttentionRun

variable {run : AttentionRun} {input : RuntimeInput}

def spentOf (run : AttentionRun) (key : RawFrontPanelKey) (number : ℕ) : Prop :=
  (key, number) ∈ run.spent

/-- While nothing is suppressed, no acknowledging press that is finished has an event left to give;
and while the window of a suppression is open, no press has begun after its end. -/
structure Sound (run : AttentionRun) : Prop where
  recorded : ∀ key, (run.tracker key).Recorded (run.records key) (run.spentOf key)
  silent : run.state.suppressAttentionAckInput = false → ¬ run.Unfinished → ∀ key,
    (run.tracker key).Silent (run.records key) (run.spentOf key) (logicalFromRaw key)
  begun : ∀ key, (run.records key).current.begunMs ≤ run.lastMs ∧
    (run.records key).pending.begunMs ≤ run.lastMs
  window : run.state.suppressAttentionAckInput = true → ∀ windowEndMs ∈ run.windowEndMs, ∀ key,
    (run.records key).current.begunMs < windowEndMs ∧
      (run.records key).pending.begunMs < windowEndMs
  delay : 0 < run.state.suppressAttentionAckClearDelayMs

theorem sound_new : Sound new where
  recorded := fun _ => ⟨ok_new, nofun, nofun, nofun⟩
  silent := fun _ _ _ => ⟨nofun, nofun⟩
  begun := fun _ => ⟨le_refl _, le_refl _⟩
  window := nofun
  delay := by decide

/-! ### Events -/

variable {event : SampledEvent}

theorem mem_sample (h : event ∈ (run.state.sample input).2) :
    event.site ∈ ((run.tracker event.event.rawKey).sampleKey
        (run.reading input event.event.rawKey)).2 ∧
      event.event.key = logicalFromRaw event.event.rawKey := by
  obtain ⟨key, -, hmem⟩ := List.mem_flatMap.mp (List.mem_of_mem_take h)
  obtain ⟨site, hsite, rfl⟩ := List.mem_map.mp hmem
  exact ⟨hsite, rfl⟩

theorem pairwise_presses (hrecorded : ∀ key,
    (run.tracker key).Recorded (run.records key) (run.spentOf key)) :
    (run.state.sample input).2.Pairwise fun event event' =>
      event.event.rawKey = event'.event.rawKey →
        ∀ press ∈ run.presses input event, ∀ press' ∈ run.presses input event',
          press.number ≠ press'.number := by
  refine List.Pairwise.sublist (List.take_sublist _ _) ?_
  refine List.pairwise_flatMap.mpr ⟨?_, ?_⟩
  · intro key _
    refine List.pairwise_map.mpr ?_
    refine List.Pairwise.imp ?_
      (@KeyTracker.Recorded.pairwise_presses _ _ (run.reading input key) _ (hrecorded key))
    intro site site' hsites _
    exact hsites
  · refine List.Pairwise.imp ?_ RawFrontPanelKey.nodup_all
    intro key key' hne event hevent event' hevent' heq
    obtain ⟨site, -, rfl⟩ := List.mem_map.mp hevent
    obtain ⟨site', -, rfl⟩ := List.mem_map.mp hevent'
    exact absurd heq hne

variable {entry : RawFrontPanelKey × ℕ}

theorem mem_spentByEvents {outcomes : List (SampledEvent × EventOutcome)} :
    entry ∈ run.spentByEvents input outcomes ↔
      ∃ event, (event, .acknowledges) ∈ outcomes ∧ event.event.rawKey = entry.1 ∧
        ∃ press ∈ run.presses input event, press.number = entry.2 := by
  obtain ⟨key, number⟩ := entry
  simp only [spentByEvents, List.mem_flatMap, Prod.exists]
  constructor
  · rintro ⟨event, outcome, hmem, hentry⟩
    split_ifs at hentry with hack
    · obtain ⟨press, hpress, heq⟩ := List.mem_map.mp hentry
      obtain ⟨rfl, rfl⟩ := Prod.mk.inj heq
      exact ⟨event, hack ▸ hmem, rfl, press, hpress, rfl⟩
    · exact absurd hentry List.not_mem_nil
  · rintro ⟨event, hmem, rfl, press, hpress, rfl⟩
    refine ⟨event, .acknowledges, hmem, ?_⟩
    rw [if_pos rfl]
    exact List.mem_map.mpr ⟨press, hpress, rfl⟩

theorem mem_spentByKeys (h : entry ∈ run.spentByKeys input) :
    run.state.keysAcknowledge input = true ∧
      entry.2 = (run.noted input entry.1).current.number := by
  rw [spentByKeys, handle_acknowledgedByKeys] at h
  split_ifs at h with hack
  · obtain ⟨key, -, rfl⟩ := List.mem_map.mp h
    exact ⟨hack, rfl⟩
  · exact absurd h List.not_mem_nil

variable {outcome : EventOutcome}

theorem mem_sample_of_mem_outcomes (h : (event, outcome) ∈ (run.state.handle input).outcomes) :
    event ∈ (run.state.sample input).2 := by
  obtain ⟨attention, heq, -⟩ := handle_outcomes run.state input
  have hmem := List.mem_map_of_mem (f := Prod.fst) h
  rw [heq, map_fst_processEvents] at hmem
  exact hmem

/-- What is suppressed, acknowledges or is delivered depends on whether the suppression is on. -/
theorem suppress_of_mem_outcomes (h : (event, outcome) ∈ (run.state.handle input).outcomes) :
    outcome = .ignored ∨ (outcome = .suppressed ↔
      (run.state.suppressAttentionAckInput || run.state.keysAcknowledge input) = true) := by
  obtain ⟨attention, heq, -⟩ := handle_outcomes run.state input
  have hraw := rawProcessed_spec run.state input
  rw [heq] at h
  rw [← hraw.suppress]
  exact processEvents_outcome h

/-! ### The next state -/

theorem tracker_next (key : RawFrontPanelKey) :
    (run.next input).tracker key =
      ((run.tracker key).sampleKey (run.reading input key)).1 := by
  have hbefore := beforeLift_spec run.state input
  have hcontroller : (run.state.iterate input).controller = (run.state.sample input).1 := by
    rcases iterate_cases run.state input with ⟨-, heq⟩ | ⟨-, -, heq⟩
    · rw [heq]
      exact hbefore.controller
    · rw [heq]
      exact hbefore.controller
  exact congrArg (fun controller => controller.trackers key) hcontroller

theorem records_next (key : RawFrontPanelKey) :
    (run.next input).records key = run.noted input key :=
  rfl

theorem rawPressed_next (h : run.Sound) (key : RawFrontPanelKey) :
    ((run.next input).tracker key).rawPressed = input.rawState.isPressed key := by
  obtain ⟨waiting, pending, rest, hcomes, hadvanced, -⟩ :=
    @sampleKey_spec _ (run.reading input key) (h.recorded key).ok
  have hraw : ((run.tracker key).sampleKey (run.reading input key)).1.rawPressed =
      waiting.rawPressed := hadvanced.raw
  rw [tracker_next, hraw, hcomes.same.2.2, updateRawTracker_rawPressed]
  rfl

variable {key : RawFrontPanelKey}

theorem spentOf_next {number : ℕ} :
    (run.next input).spentOf key number ↔
      run.spentOf key number ∨ (key, number) ∈ run.spentByKeys input ∨
        (key, number) ∈ run.spentByEvents input (run.state.handle input).outcomes := by
  unfold spentOf next
  simp only [List.mem_append, or_assoc]

theorem recorded_next (h : run.Sound) (key : RawFrontPanelKey) :
    ((run.next input).tracker key).Recorded ((run.next input).records key)
      ((run.next input).spentOf key) := by
  have hsampled := @KeyTracker.Recorded.sample _ _ (run.reading input key) _ (h.recorded key)
  rw [tracker_next, records_next]
  refine { hsampled with spent_le := ?_ }
  intro number hspent
  rcases spentOf_next.mp hspent with hspent | hkeys | hevents
  · exact hsampled.spent_le number hspent
  · exact (mem_spentByKeys hkeys).2.le
  · obtain ⟨event, hmem, rfl, press, hpress, rfl⟩ := mem_spentByEvents.mp hevents
    obtain ⟨hsite, -⟩ := mem_sample (mem_sample_of_mem_outcomes hmem)
    exact (h.recorded _).presses_le hsite hpress

/-- A key has nothing to give when its acknowledging presses are finished and it is up. -/
theorem silent_of_finished (h : run.Sound) (hfinished : ¬ (run.next input).Unfinished)
    (hidle : input.rawState.pressedMask = 0) (key : RawFrontPanelKey) :
    ((run.next input).tracker key).Silent ((run.next input).records key)
      ((run.next input).spentOf key) (logicalFromRaw key) := by
  refine ⟨?_, ?_⟩
  · intro hsome hspent
    exact hfinished ⟨key, .inl ⟨hsome, hspent⟩⟩
  · intro hspent hsome
    refine ⟨?_, ?_⟩
    · by_contra hfresh
      exact hfinished ⟨key, .inr ⟨hsome, by simpa using hfresh, hspent⟩⟩
    · intro hraw
      rw [rawPressed_next h, FrontPanelRawState.isPressed_eq_false hidle] at hraw
      cases hraw

theorem head_of_acknowledges (h : (event, .acknowledges) ∈ (run.state.handle input).outcomes)
    (hkeys : run.state.keysAcknowledge input = false) :
    event ∈ (run.state.sample input).2.head? ∧
      (run.state.sampled input).suppressPairingInputUntilReleased = false ∧
        input.attention.overtempAttentionRequiresAck input.overtempActive = true := by
  obtain ⟨attention, heq, hattention⟩ := handle_outcomes run.state input
  obtain rfl := hattention hkeys
  rw [heq] at h
  obtain ⟨hhead, hpairing, hrequired⟩ := acknowledges_head h
  rw [(rawProcessed_spec run.state input).pairing] at hpairing
  exact ⟨hhead, hpairing, hrequired⟩

/-- While nothing is suppressed, the event that acknowledges is the only one that spends a press. -/
theorem silent_of_sample (h : run.Sound) (hcareful : run.Careful input)
    (hsuppress : run.state.suppressAttentionAckInput = false)
    (hkeys : run.state.keysAcknowledge input = false) (key : RawFrontPanelKey) :
    ((run.next input).tracker key).Silent ((run.next input).records key)
      ((run.next input).spentOf key) (logicalFromRaw key) := by
  have hbounce := hcareful.settled hsuppress hkeys key
  have hsilent := h.silent hsuppress (hcareful.finished hsuppress) key
  have hnone : ∀ number, (key, number) ∉ run.spentByKeys input := by
    intro number hmem
    have := (mem_spentByKeys hmem).1
    simp [hkeys] at this
  rw [tracker_next, records_next]
  by_cases hack : ∃ event, (event, .acknowledges) ∈ (run.state.handle input).outcomes ∧
      event.event.rawKey = key
  · obtain ⟨event, hmem, rfl⟩ := hack
    obtain ⟨hsite, hkey⟩ := mem_sample (mem_sample_of_mem_outcomes hmem)
    obtain ⟨hhead, hpairing, hrequired⟩ := head_of_acknowledges hmem hkeys
    have hrepeats := hcareful.noRepetition hrequired hsuppress hkeys hpairing event hhead
    rw [hkey] at hrepeats
    refine KeyTracker.Silent.mono (@silent_sample_spend _ _
      (run.reading input event.event.rawKey) _ (h.recorded _) hsilent hbounce _ hsite hrepeats) ?_
    intro number hspent
    rcases spentOf_next.mp hspent with hspent | hspent | hspent
    · exact .inl hspent
    · exact absurd hspent (hnone number)
    · obtain ⟨event', hmem', -, press, hpress, hnumber⟩ := mem_spentByEvents.mp hspent
      have hhead' := (head_of_acknowledges hmem' hkeys).1
      obtain rfl := Option.mem_unique hhead hhead'
      exact .inr ⟨press, hpress, hnumber⟩
  · refine KeyTracker.Silent.mono (@silent_sample _ _ (run.reading input key) _
      (h.recorded key) hsilent hbounce).1 ?_
    intro number hspent
    rcases spentOf_next.mp hspent with hspent | hspent | hspent
    · exact hspent
    · exact absurd hspent (hnone number)
    · obtain ⟨event, hmem, hkey, -⟩ := mem_spentByEvents.mp hspent
      exact absurd ⟨event, hmem, hkey⟩ hack

theorem silent_next (h : run.Sound) (hcareful : run.Careful input)
    (hsuppress : (run.next input).state.suppressAttentionAckInput = false)
    (hfinished : ¬ (run.next input).Unfinished) (key : RawFrontPanelKey) :
    ((run.next input).tracker key).Silent ((run.next input).records key)
      ((run.next input).spentOf key) (logicalFromRaw key) := by
  rcases iterate_cases run.state input with ⟨-, heq⟩ | ⟨-, hidle, -⟩
  · have hbefore := (beforeLift_spec run.state input).suppress
    have hoff : (run.state.beforeLift input).suppressAttentionAckInput = false := heq ▸ hsuppress
    rw [hbefore, Bool.or_eq_false_iff] at hoff
    exact silent_of_sample h hcareful hoff.1 hoff.2 key
  · exact silent_of_finished h hfinished hidle key

/-! ### Times -/

/-- What holds of the times of the known presses, and of the present one if a press begins. -/
theorem noted_begun {P : ℕ → Prop}
    (hbegins : PressRecord.Begins (run.tracker key) (input.rawState.isPressed key) → P input.nowMs)
    (hcurrent : P (run.records key).current.begunMs)
    (hpending : P (run.records key).pending.begunMs) :
    P (run.noted input key).current.begunMs ∧ P (run.noted input key).pending.begunMs := by
  have hnow : P (run.noted input key).current.begunMs := by
    rw [noted, noted_current]
    unfold edgeRecord
    dsimp only
    split_ifs with hpress
    · exact hbegins hpress
    · exact hcurrent
  refine ⟨hnow, ?_⟩
  have hcases : (run.noted input key).pending = (run.records key).pending ∨
      (run.noted input key).pending = (run.noted input key).current := by
    unfold noted KeyTracker.noted PressRecord.note
    dsimp only
    by_cases hsame : ((run.tracker key).sampleKey (run.reading input key)).1.pendingShortReleaseMs =
        (run.tracker key).pendingShortReleaseMs
    · exact .inl (if_pos hsame)
    · exact .inr (if_neg hsame)
  rcases hcases with heq | heq
  · rw [heq]
    exact hpending
  · rw [heq]
    exact hnow

/-- No press begins after the end of a window that is still open. -/
theorem begun_lt_window (h : run.Sound) (hcareful : run.Careful input)
    (hsuppress : run.state.suppressAttentionAckInput = true) {windowEndMs : ℕ}
    (hwindow : windowEndMs ∈ run.windowEndMs) (key : RawFrontPanelKey) :
    (run.noted input key).current.begunMs < windowEndMs ∧
      (run.noted input key).pending.begunMs < windowEndMs := by
  obtain ⟨hcurrent, hpending⟩ := h.window hsuppress windowEndMs hwindow key
  refine noted_begun (P := (· < windowEndMs)) ?_ hcurrent hpending
  intro hbegins
  exact hcareful.inTime hsuppress windowEndMs hwindow key hbegins

theorem window_next (h : run.Sound) (hinput : run.InOrder input) (hcareful : run.Careful input)
    (hsuppress : (run.next input).state.suppressAttentionAckInput = true) {windowEndMs : ℕ}
    (hwindow : windowEndMs ∈ (run.next input).windowEndMs) (key : RawFrontPanelKey) :
    (run.noted input key).current.begunMs < windowEndMs ∧
      (run.noted input key).pending.begunMs < windowEndMs := by
  have hbefore := beforeLift_spec run.state input
  have hon : (run.state.beforeLift input).suppressAttentionAckInput = true := by
    rcases iterate_cases run.state input with ⟨-, heq⟩ | ⟨-, -, heq⟩
    · exact heq ▸ hsuppress
    · have hlifted : (run.state.iterate input).suppressAttentionAckInput = true := hsuppress
      rw [heq] at hlifted
      cases hlifted
  have hdelay := hbefore.delay h.delay
  have hafter : windowEndMs ∈ run.windowAfter input := hwindow
  unfold windowAfter at hafter
  split_ifs at hafter
  · cases hafter
  · obtain rfl := Option.some.inj hafter
    cases hopen : run.window input with
    | none =>
      -- The window begins now, and no press begins later than now.
      have hbegun := h.begun key
      have hnow := @noted_begun run input key (· ≤ input.nowMs) (fun _ => le_refl _)
        (hbegun.1.trans hinput) (hbegun.2.trans hinput)
      rw [Option.getD_none]
      omega
    | some windowEndMs =>
      rw [Option.getD_some]
      rw [window, handle_acknowledgedByKeys] at hopen
      split_ifs at hopen with hkeys
      rw [hbefore.suppress] at hon
      have hold : run.state.suppressAttentionAckInput = true := by simpa [hkeys] using hon
      exact begun_lt_window h hcareful hold hopen key

theorem sound_next (h : run.Sound) (hinput : run.InOrder input) (hcareful : run.Careful input) :
    (run.next input).Sound where
  recorded := recorded_next h
  silent := silent_next h hcareful
  begun := by
    intro key
    have hbegun := h.begun key
    exact @noted_begun run input key (· ≤ input.nowMs) (fun _ => le_refl _)
      (hbegun.1.trans hinput) (hbegun.2.trans hinput)
  window := by
    intro hsuppress windowEndMs hwindow key
    exact window_next h hinput hcareful hsuppress hwindow key
  delay := by
    have hbefore := beforeLift_spec run.state input
    rcases iterate_cases run.state input with ⟨-, heq⟩ | ⟨-, -, heq⟩
    · exact (congrArg suppressAttentionAckClearDelayMs heq) ▸ hbefore.delay h.delay
    · exact (congrArg suppressAttentionAckClearDelayMs heq) ▸ Nat.succ_pos 4

/-! ### What is delivered -/

theorem behaves_silent (h : run.Sound) (hcareful : run.Careful input)
    {before after : List (SampledEvent × EventOutcome)}
    (houtcomes : (run.state.handle input).outcomes = before ++ (event, .delivered) :: after)
    {press : Press} (hpress : press ∈ run.presses input event) :
    (event.event.rawKey, press.number) ∉
      run.spent ++ run.spentByKeys input ++ run.spentByEvents input before := by
  have hmem : (event, .delivered) ∈ (run.state.handle input).outcomes := by
    rw [houtcomes]
    simp
  have hoff := suppress_of_mem_outcomes hmem
  simp only [reduceCtorEq, false_or, false_iff, Bool.not_eq_true, Bool.or_eq_false_iff] at hoff
  obtain ⟨hsuppress, hkeys⟩ := hoff
  obtain ⟨hsite, -⟩ := mem_sample (mem_sample_of_mem_outcomes hmem)
  have hbounce := hcareful.settled hsuppress hkeys event.event.rawKey
  intro hspent
  rcases List.mem_append.mp hspent with hspent | hspent
  · rcases List.mem_append.mp hspent with hspent | hspent
    · exact (@silent_sample _ _ (run.reading input event.event.rawKey) _
        (h.recorded _) (h.silent hsuppress (hcareful.finished hsuppress) _) hbounce).2 _ hsite press hpress hspent
    · have := (mem_spentByKeys hspent).1
      simp [hkeys] at this
  · -- An earlier event of the sample is of another press.
    obtain ⟨event', hmem', hkey, press', hpress', hnumber⟩ := mem_spentByEvents.mp hspent
    have hevents := @pairwise_presses run input h.recorded
    obtain ⟨attention, heq, -⟩ := handle_outcomes run.state input
    have hmap : (run.state.handle input).outcomes.map Prod.fst = (run.state.sample input).2 := by
      rw [heq, map_fst_processEvents]
    rw [← hmap, houtcomes, List.map_append] at hevents
    have hcross := (List.pairwise_append.mp hevents).2.2 event'
      (List.mem_map_of_mem (f := Prod.fst) hmem') event (by simp)
    exact hcross hkey press' hpress' press hpress hnumber

theorem behaves (h : run.Sound) (hcareful : run.Careful input) : run.Behaves input where
  silent := by
    intro before event after houtcomes press hpress
    exact behaves_silent h hcareful houtcomes hpress
  delivers := by
    intro event hmem press hpress windowEndMs hwindow
    have hon := suppress_of_mem_outcomes hmem
    simp only [reduceCtorEq, false_or, true_iff] at hon
    rw [window, handle_acknowledgedByKeys] at hwindow
    split_ifs at hwindow with hkeys
    · cases hwindow
    · have hsuppress : run.state.suppressAttentionAckInput = true := by simpa [hkeys] using hon
      have hpending := (h.window hsuppress windowEndMs hwindow event.event.rawKey).2
      have hcurrent := (begun_lt_window h hcareful hsuppress hwindow event.event.rawKey).1
      unfold presses PushSite.presses at hpress
      split at hpress
      · obtain rfl := List.mem_singleton.mp hpress
        exact hpending
      · rcases List.mem_cons.mp hpress with rfl | hpress
        · exact hpending
        · obtain rfl := List.mem_singleton.mp hpress
          exact hcurrent
      all_goals
        obtain rfl := List.mem_singleton.mp hpress
        exact hcurrent

/-- In a run where the four things do not happen, an acknowledgement is all that its press does,
and presses that come when it is over are delivered. -/
theorem acknowledgement_does_nothing_else (inputs : List RuntimeInput)
    (h : Throughout step (fun run input => run.InOrder input ∧ run.Careful input) new inputs) :
    Throughout step Behaves new inputs := by
  refine h.of_invariant sound_new ?_
  rintro run input hsound ⟨hinput, hcareful⟩
  refine ⟨behaves hsound hcareful, ?_⟩
  rintro _ ⟨⟩
  exact sound_next hsound hinput hcareful

/-! ### Two acknowledgements on the dashboard -/

/-- A sample on the dashboard, with the attention that it finds. -/
def onDashboard (nowMs : ℕ) (pressedMask : BitVec 8) (attentionPending : Bool) : RuntimeInput where
  nowMs := nowMs
  rawState := ⟨pressedMask⟩
  capabilities := (FrontPanelUiState.new .app).gestureCapabilities
  pairingOpenedByUsb := false
  attention := ⟨false, true, attentionPending, false, ⟨none⟩, none⟩
  overtempActive := false
  buzzer := .empty
  pageCapabilities := (FrontPanelUiState.new .app).gestureCapabilities

/-- `Right` acknowledges, and is released. -/
def acknowledgedByRight : List RuntimeInput :=
  [onDashboard 0 2 true, onDashboard 10 2 false, onDashboard 20 0 false, onDashboard 30 0 false]

/-- A suppression that has not come to its window, or finds no key down, needs no care. -/
theorem careful_of_suppressed (hsuppress : run.state.suppressAttentionAckInput = true)
    (hwindow : run.windowEndMs = none ∨ input.rawState.pressedMask = 0) : run.Careful input where
  finished := by simp [hsuppress]
  settled := by simp [hsuppress]
  inTime := by
    rintro - windowEndMs hmem key ⟨hpressed, -⟩
    rcases hwindow with hnone | hidle
    · rw [hnone] at hmem
      cases hmem
    · rw [FrontPanelRawState.isPressed_eq_false hidle] at hpressed
      cases hpressed
  noRepetition := by simp [hsuppress]

theorem acknowledgement_does_nothing_else_right :
    Throughout step Behaves new acknowledgedByRight := by
  apply acknowledgement_does_nothing_else acknowledgedByRight
  refine ⟨⟨by decide, ?_⟩, ?_⟩
  · have hkeys : new.state.keysAcknowledge (onDashboard 0 2 true) = true := by decide
    refine ⟨?_, ?_, nofun, ?_⟩
    · rintro - ⟨key, hspent⟩
      simp [new] at hspent
    · intro _ hnot
      cases hkeys.symm.trans hnot
    · intro _ _ hnot
      cases hkeys.symm.trans hnot
  rintro _ ⟨⟩
  refine ⟨⟨by decide, careful_of_suppressed (by decide) (.inl (by decide))⟩, ?_⟩
  rintro _ ⟨⟩
  refine ⟨⟨by decide, careful_of_suppressed (by decide) (.inl (by decide))⟩, ?_⟩
  rintro _ ⟨⟩
  refine ⟨⟨by decide, careful_of_suppressed (by decide) (.inr (by decide))⟩, ?_⟩
  rintro _ ⟨⟩
  trivial

/-- The center key acknowledges and is released.  The suppression is lifted 255 ms after the raw
release, and the short press comes out when more than 250 ms have passed since the debounced
one. -/
def acknowledgedByCenter : List RuntimeInput :=
  [onDashboard 0 1 true, onDashboard 10 1 false, onDashboard 100 0 false,
    onDashboard 105 0 false, onDashboard 355 0 false, onDashboard 360 0 false]

theorem not_acknowledgement_does_nothing_else : Throughout step InOrder new acknowledgedByCenter ∧
      ¬ Throughout step Behaves new acknowledgedByCenter := by
  refine ⟨?_, ?_⟩
  · refine ⟨by decide, ?_⟩
    rintro _ ⟨⟩
    refine ⟨by decide, ?_⟩
    rintro _ ⟨⟩
    refine ⟨by decide, ?_⟩
    rintro _ ⟨⟩
    refine ⟨by decide, ?_⟩
    rintro _ ⟨⟩
    refine ⟨by decide, ?_⟩
    rintro _ ⟨⟩
    refine ⟨by decide, ?_⟩
    rintro _ ⟨⟩
    trivial
  · intro h
    obtain ⟨-, h⟩ := h
    obtain ⟨-, h⟩ := h _ rfl
    obtain ⟨-, h⟩ := h _ rfl
    obtain ⟨-, h⟩ := h _ rfl
    obtain ⟨-, h⟩ := h _ rfl
    obtain ⟨h, -⟩ := h _ rfl
    have hescapes := h.silent [] ⟨.pendingShort, ⟨.centerBoot, .center, .shortPress, 360⟩⟩ []
      (by decide) ⟨1, 0⟩ (by decide)
    exact hescapes (by decide)

end AttentionRun

end FluxPurr.FrontPanel
