import FluxPurr.FrontPanel.PressStages

/-!
# Which press an event belongs to

The presses of a key are numbered.  A press begins when the key goes down while no press of it is in
progress; while the contacts bounce, it is the same press.  `PressRecord` keeps the number of the
last press and that of the press whose short press is pending, and `PushSite.presses` says of which
presses an event is.

The presses of a key that have acknowledged something are its `spent` presses.  `Silent` says that
none of them has an event left to give: an unfinished press may be spent only once its long press
has fired.  A sample of a silent key gives no event of a spent press, and leaves the key silent
(`silent_sample`), also if one of the events is spent on another acknowledgement
(`silent_sample_spend`).
-/

namespace FluxPurr.FrontPanel

/-- A press of a key, and when it began. -/
structure Press where
  number : ℕ
  begunMs : ℕ
deriving DecidableEq, Repr

structure PressRecord where
  current : Press
  pending : Press
deriving DecidableEq, Repr

namespace PressRecord

def new : PressRecord := ⟨⟨0, 0⟩, ⟨0, 0⟩⟩

/-- Whether a press begins with a sample. -/
def Begins (before : KeyTracker) (pressed : Bool) : Prop :=
  pressed = true ∧ before.pressStartedMs = none

instance (before : KeyTracker) (pressed : Bool) : Decidable (Begins before pressed) :=
  inferInstanceAs (Decidable (_ ∧ _))

/-- The record after a sample that brought the tracker from `before` to `after`. -/
def note (record : PressRecord) (before after : KeyTracker) (pressed : Bool) (nowMs : ℕ) :
    PressRecord :=
  let current :=
    if Begins before pressed then ⟨record.current.number + 1, nowMs⟩ else record.current
  { current
    pending :=
      if after.pendingShortReleaseMs = before.pendingShortReleaseMs then record.pending
      else current }

end PressRecord

/-- The presses that an event is of.  A pending short press is of an earlier sample. -/
def PushSite.presses (site : PushSite) (before after : PressRecord) : List Press :=
  match site with
  | pendingShort => [before.pending]
  | releaseDouble => [before.pending, after.current]
  | releaseShort | long | repetition => [after.current]

namespace KeyTracker

variable {tracker : KeyTracker} {record : PressRecord} {reading : Reading} {spent : ℕ → Prop}

/-- The record of a key after a sample. -/
def noted (tracker : KeyTracker) (record : PressRecord) (reading : Reading) : PressRecord :=
  record.note tracker (tracker.sampleKey reading).1 reading.pressed reading.nowMs

/-- The record fits the tracker. -/
structure Recorded (tracker : KeyTracker) (record : PressRecord) (spent : ℕ → Prop) : Prop where
  ok : tracker.Ok
  pending_le : tracker.pendingShortReleaseMs.isSome →
    record.pending.number ≤ record.current.number
  pending_lt : tracker.pendingShortReleaseMs.isSome → tracker.pressStartedMs.isSome →
    record.pending.number < record.current.number
  spent_le : ∀ number, spent number → number ≤ record.current.number

/-- No spent press has an event left to give. -/
structure Silent (tracker : KeyTracker) (record : PressRecord) (spent : ℕ → Prop)
    (logicalKey : FrontPanelKey) : Prop where
  pending : tracker.pendingShortReleaseMs.isSome → ¬ spent record.pending.number
  current : spent record.current.number → tracker.pressStartedMs.isSome →
    tracker.longFired = true ∧ (tracker.rawPressed = true → repeats logicalKey = false)

theorem Silent.mono {logicalKey : FrontPanelKey} {spent' : ℕ → Prop}
    (h : Silent tracker record spent logicalKey) (hspent : ∀ number, spent' number → spent number) :
    Silent tracker record spent' logicalKey :=
  ⟨fun hsome hpending => h.pending hsome (hspent _ hpending),
    fun hcurrent => h.current (hspent _ hcurrent)⟩

/-- A spent press does not bounce: the key does not go down again before its release is
debounced. -/
def DoesNotBounce (tracker : KeyTracker) (record : PressRecord) (spent : ℕ → Prop)
    (pressed : Bool) : Prop :=
  spent record.current.number → tracker.pressStartedMs.isSome → tracker.rawPressed = false →
    pressed = false

/-! ## The raw edge -/

/-- The record with the press that begins with the sample, if one does. -/
def edgeRecord (tracker : KeyTracker) (record : PressRecord) (reading : Reading) : PressRecord :=
  { record with
    current :=
      if PressRecord.Begins tracker reading.pressed then
        ⟨record.current.number + 1, reading.nowMs⟩
      else record.current }

theorem noted_current :
    (tracker.noted record reading).current = (tracker.edgeRecord record reading).current := rfl

/-- Where no press begins, one that is in progress after the edge was so before it. -/
theorem isSome_of_updateRawTracker (hbegins : ¬ PressRecord.Begins tracker reading.pressed)
    (hstarted : (tracker.updateRawTracker reading).pressStartedMs.isSome) :
    tracker.pressStartedMs.isSome := by
  by_contra hnone
  have hidle : tracker.pressStartedMs = none := by simpa using hnone
  have hraw : reading.pressed = false := by
    by_contra hpressed
    exact hbegins ⟨by simpa using hpressed, hidle⟩
  have hheld := @updateRawTracker_of_not_edge tracker reading (by simp [hraw])
  rw [hheld.1, hidle] at hstarted
  exact absurd hstarted (by simp)

theorem edgeRecord_current_of_begins (h : PressRecord.Begins tracker reading.pressed) :
    (tracker.edgeRecord record reading).current =
      ⟨record.current.number + 1, reading.nowMs⟩ := if_pos h

theorem edgeRecord_current_of_not_begins (h : ¬ PressRecord.Begins tracker reading.pressed) :
    (tracker.edgeRecord record reading).current = record.current := if_neg h

theorem Recorded.updateRawTracker (h : Recorded tracker record spent) :
    Recorded (tracker.updateRawTracker reading) (tracker.edgeRecord record reading) spent := by
  have hok : (tracker.updateRawTracker reading).Ok := h.ok.updateRawTracker
  have hpending : (tracker.edgeRecord record reading).pending = record.pending := rfl
  by_cases hbegins : PressRecord.Begins tracker reading.pressed
  · refine ⟨hok, ?_, ?_, ?_⟩
    · intro hsome
      rw [updateRawTracker_pendingShortReleaseMs] at hsome
      have hle := h.pending_le hsome
      rw [edgeRecord_current_of_begins hbegins, hpending]
      exact Nat.le_succ_of_le hle
    · intro hsome _
      rw [updateRawTracker_pendingShortReleaseMs] at hsome
      have hle := h.pending_le hsome
      rw [edgeRecord_current_of_begins hbegins, hpending]
      exact Nat.lt_succ_of_le hle
    · intro number hspent
      rw [edgeRecord_current_of_begins hbegins]
      exact Nat.le_succ_of_le (h.spent_le number hspent)
  · refine ⟨hok, ?_, ?_, ?_⟩
    · intro hsome
      rw [updateRawTracker_pendingShortReleaseMs] at hsome
      rw [edgeRecord_current_of_not_begins hbegins, hpending]
      exact h.pending_le hsome
    · intro hsome hstarted
      rw [updateRawTracker_pendingShortReleaseMs] at hsome
      rw [edgeRecord_current_of_not_begins hbegins, hpending]
      exact h.pending_lt hsome (isSome_of_updateRawTracker hbegins hstarted)
    · intro number hspent
      rw [edgeRecord_current_of_not_begins hbegins]
      exact h.spent_le number hspent

theorem Silent.updateRawTracker (h : Silent tracker record spent reading.logicalKey)
    (hrecorded : Recorded tracker record spent)
    (hbounce : DoesNotBounce tracker record spent reading.pressed) :
    Silent (tracker.updateRawTracker reading) (tracker.edgeRecord record reading) spent
      reading.logicalKey := by
  refine ⟨?_, ?_⟩
  · intro hsome
    rw [updateRawTracker_pendingShortReleaseMs] at hsome
    exact h.pending hsome
  · by_cases hbegins : PressRecord.Begins tracker reading.pressed
    · intro hspent
      rw [edgeRecord_current_of_begins hbegins] at hspent
      exact absurd (hrecorded.spent_le _ hspent) (Nat.not_succ_le_self _)
    · rw [edgeRecord_current_of_not_begins hbegins]
      intro hspent hstarted
      have hsome := isSome_of_updateRawTracker hbegins hstarted
      obtain ⟨hfired, hkey⟩ := h.current hspent hsome
      have hheld : reading.pressed = true → tracker.rawPressed = true := by
        intro hpressed
        by_contra hraw
        have := hbounce hspent hsome (by simpa using hraw)
        simp [this] at hpressed
      rw [(updateRawTracker_of_not_edge hheld).2]
      refine ⟨hfired, ?_⟩
      intro hraw
      rw [updateRawTracker_rawPressed] at hraw
      exact hkey (hheld hraw)

/-! ## The stages after the edge -/

section Stages

variable {edge waiting next : KeyTracker} {edged : PressRecord} {pending rest : List PushSite}

/-- The record after the other stages. -/
def settle (edge next : KeyTracker) (edged : PressRecord) : PressRecord :=
  { edged with
    pending :=
      if next.pendingShortReleaseMs = edge.pendingShortReleaseMs then edged.pending
      else edged.current }

theorem noted_eq_settle : tracker.noted record reading =
      settle (tracker.updateRawTracker reading) (tracker.sampleKey reading).1
        (tracker.edgeRecord record reading) := by
  unfold noted settle PressRecord.note
  rw [updateRawTracker_pendingShortReleaseMs]
  rfl

/-- The pending short press may come out; nothing else changes. -/
theorem Comes.same (h : Comes edge reading waiting pending) :
    waiting.pressStartedMs = edge.pressStartedMs ∧ waiting.longFired = edge.longFired ∧
      waiting.rawPressed = edge.rawPressed := by
  cases h with
  | waits | out => exact ⟨rfl, rfl, rfl⟩

variable {site : PushSite}

/-- What came out before the release is the pending short press. -/
theorem Comes.mem (h : Comes edge reading waiting pending) (hmem : site ∈ pending) :
    site = .pendingShort ∧ edge.pendingShortReleaseMs.isSome ∧
      waiting.pendingShortReleaseMs = none := by
  cases h with
  | waits => exact absurd hmem List.not_mem_nil
  | out hpending => exact ⟨mem_push hmem, by simp [hpending], rfl⟩

/-- What is pushed after it is of the present press, which is in progress. -/
theorem Advances.mem (h : Advances waiting reading next rest) (hok : waiting.Ok)
    (hmem : site ∈ rest) :
    waiting.pressStartedMs.isSome ∧
      (((site = .releaseShort ∨ site = .releaseDouble) ∧ waiting.longFired = false ∧
          next.pressStartedMs = none) ∨
        (site = .long ∧ waiting.longFired = false ∧ next.longFired = true) ∨
        (site = .repetition ∧ waiting.longFired = true ∧ next.longFired = true ∧
          waiting.rawPressed = true ∧ repeats reading.logicalKey = true)) := by
  cases h with
  | keeps | spent | pends => exact absurd hmem List.not_mem_nil
  | short hheld hfresh hended => exact ⟨hheld, .inl ⟨.inl (mem_push hmem), hfresh, hended⟩⟩
  | double hheld hfresh hended => exact ⟨hheld, .inl ⟨.inr (mem_push hmem), hfresh, hended⟩⟩
  | long hheld hfresh _ hfired =>
    exact ⟨hheld, .inr (.inl ⟨mem_push hmem, hfresh, hfired⟩)⟩
  | repetition hraw hkey hfired _ hlong =>
    exact ⟨hok.raw hraw, .inr (.inr ⟨mem_push hmem, hfired, hlong.trans hfired, hraw, hkey⟩)⟩

theorem Advances.started (h : Advances waiting reading next rest)
    (hsome : next.pressStartedMs.isSome) :
    next.pressStartedMs = waiting.pressStartedMs ∧
      (next.longFired = waiting.longFired ∨ next.longFired = true) := by
  cases h with
  | keeps hstarted hlong => exact ⟨hstarted, .inl hlong⟩
  | spent hended | short _ _ hended | pends _ _ hended | double _ _ hended => simp [hended] at hsome
  | long _ _ hstarted hfired => exact ⟨hstarted, .inr hfired⟩
  | repetition _ _ _ hstarted hlong => exact ⟨hstarted, .inl hlong⟩

/-- A short press that is pending after the stages was so before them, or is the present press's. -/
theorem settle_pending_cases (hcomes : Comes edge reading waiting pending)
    (hadvances : Advances waiting reading next rest)
    (hsome : next.pendingShortReleaseMs.isSome) :
    (edge.pendingShortReleaseMs.isSome ∧ pending = [] ∧ PushSite.releaseDouble ∉ rest ∧
        (settle edge next edged).pending = edged.pending) ∨
      (edge.pressStartedMs.isSome ∧ edge.longFired = false ∧ next.pressStartedMs = none ∧
        rest = [] ∧ (settle edge next edged).pending = edged.current) := by
  cases hcomes with
  | waits =>
    cases hadvances with
    | keeps _ _ hpending =>
      exact .inl ⟨hpending ▸ hsome, rfl, List.not_mem_nil, if_pos hpending⟩
    | spent _ hpending =>
      exact .inl ⟨hpending ▸ hsome, rfl, List.not_mem_nil, if_pos hpending⟩
    | short _ _ _ hpending =>
      refine .inl ⟨hpending ▸ hsome, rfl, ?_, if_pos hpending⟩
      intro hmem
      exact absurd (mem_push hmem) (by decide)
    | pends hheld hfresh hended _ hnew hpending =>
      exact .inr ⟨hheld, hfresh, hended, rfl, if_neg fun h => hnew (h.symm.trans hpending)⟩
    | double _ _ _ _ hpending => simp [hpending] at hsome
    | long _ _ _ _ hpending => simp [hpending] at hsome
    | repetition _ _ _ _ _ hpending =>
      refine .inl ⟨hpending ▸ hsome, rfl, ?_, if_pos hpending⟩
      intro hmem
      exact absurd (mem_push hmem) (by decide)
  | out hbefore hlate =>
    cases hadvances with
    | keeps _ _ hpending => simp [hpending] at hsome
    | spent _ hpending => simp [hpending] at hsome
    | short _ _ _ hpending => simp [hpending] at hsome
    | pends hheld hfresh hended hdouble _ hpending =>
      refine .inr ⟨hheld, hfresh, hended, rfl, if_neg ?_⟩
      intro hsame
      rw [hpending, hbefore] at hsame
      exact absurd (Option.some.inj hsame) (Nat.ne_of_gt (hlate hdouble))
    | double _ _ _ _ hpending => simp [hpending] at hsome
    | long _ _ _ _ hpending => simp [hpending] at hsome
    | repetition _ _ _ _ _ hpending => simp [hpending] at hsome

theorem Recorded.settle (h : Recorded edge edged spent)
    (hcomes : Comes edge reading waiting pending)
    (hadvanced : Advanced waiting reading (next, rest)) :
    Recorded next (settle edge next edged) spent := by
  have hadvances : Advances waiting reading next rest := hadvanced.advances
  refine ⟨hadvanced.ok, ?_, ?_, h.spent_le⟩
  · intro hsome
    rcases @settle_pending_cases _ _ _ _ edged _ _ hcomes hadvances hsome with
      ⟨hbefore, -, -, heq⟩ | ⟨-, -, -, -, heq⟩
    · rw [heq]
      exact h.pending_le hbefore
    · rw [heq]
      exact Nat.le_refl _
  · intro hsome hstarted
    rcases @settle_pending_cases _ _ _ _ edged _ _ hcomes hadvances hsome with
      ⟨hbefore, -, -, heq⟩ | ⟨-, -, hended, -, -⟩
    · rw [heq]
      apply h.pending_lt hbefore
      rw [(hadvances.started hstarted).1, hcomes.same.1] at hstarted
      exact hstarted
    · simp [hended] at hstarted

theorem Comes.isSome_before (h : Comes edge reading waiting pending)
    (hsome : waiting.pendingShortReleaseMs.isSome) : edge.pendingShortReleaseMs.isSome := by
  cases h with
  | waits => exact hsome
  | out => simp at hsome

theorem Advances.pending_of_double (h : Advances waiting reading next rest)
    (hmem : .releaseDouble ∈ rest) :
    waiting.pendingShortReleaseMs.isSome ∧ next.pendingShortReleaseMs = none := by
  cases h with
  | keeps | spent | pends => exact absurd hmem List.not_mem_nil
  | short => exact absurd (mem_push hmem) (by decide)
  | double _ _ _ hbefore hpending => exact ⟨hbefore, hpending⟩
  | long | repetition => exact absurd (mem_push hmem) (by decide)

/-- The present press of a silent key pushes nothing, if it is spent. -/
theorem Silent.current_not_spent (h : Silent edge edged spent reading.logicalKey)
    (hcomes : Comes edge reading waiting pending) (hwaiting : waiting.Ok)
    (hadvances : Advances waiting reading next rest) (hmem : site ∈ rest) :
    ¬ spent edged.current.number := by
  obtain ⟨hsame, hlong, hraw⟩ := hcomes.same
  obtain ⟨hheld, hcases⟩ := hadvances.mem hwaiting hmem
  intro hspent
  rw [hsame] at hheld
  obtain ⟨hfired, hkey⟩ := h.current hspent hheld
  rw [← hlong] at hfired
  rcases hcases with ⟨-, hfresh, -⟩ | ⟨-, hfresh, -⟩ | ⟨-, -, -, hpressed, hrepeats⟩
  · simp [hfresh] at hfired
  · simp [hfresh] at hfired
  · rw [hraw] at hpressed
    simp [hkey hpressed] at hrepeats

theorem Silent.not_spent (h : Silent edge edged spent reading.logicalKey)
    (hcomes : Comes edge reading waiting pending) (hwaiting : waiting.Ok)
    (hadvances : Advances waiting reading next rest)
    (hmem : site ∈ pending ++ rest) {press : Press} (hpress : press ∈ site.presses edged edged) :
    ¬ spent press.number := by
  rcases List.mem_append.mp hmem with hmem | hmem
  · obtain ⟨rfl, hsome, -⟩ := hcomes.mem hmem
    obtain rfl := List.mem_singleton.mp hpress
    exact h.pending hsome
  · have hcurrent := h.current_not_spent hcomes hwaiting hadvances hmem
    obtain ⟨-, hcases⟩ := hadvances.mem hwaiting hmem
    rcases hcases with ⟨rfl | rfl, -⟩ | ⟨rfl, -⟩ | ⟨rfl, -⟩
    · obtain rfl := List.mem_singleton.mp hpress
      exact hcurrent
    · rcases List.mem_cons.mp hpress with rfl | hpress
      · exact h.pending (hcomes.isSome_before (hadvances.pending_of_double hmem).1)
      · obtain rfl := List.mem_singleton.mp hpress
        exact hcurrent
    · obtain rfl := List.mem_singleton.mp hpress
      exact hcurrent
    · obtain rfl := List.mem_singleton.mp hpress
      exact hcurrent

theorem Silent.settle (h : Silent edge edged spent reading.logicalKey)
    (hcomes : Comes edge reading waiting pending)
    (hadvanced : Advanced waiting reading (next, rest)) :
    Silent next (settle edge next edged) spent reading.logicalKey := by
  have hadvances : Advances waiting reading next rest := hadvanced.advances
  obtain ⟨hsame, hlong, hraw⟩ := hcomes.same
  have hrawNext : next.rawPressed = waiting.rawPressed := hadvanced.raw
  refine ⟨?_, ?_⟩
  · intro hsome
    rcases @settle_pending_cases _ _ _ _ edged _ _ hcomes hadvances hsome with
      ⟨hbefore, -, -, heq⟩ | ⟨hheld, hfresh, -, -, heq⟩
    · rw [heq]
      exact h.pending hbefore
    · rw [heq]
      intro hspent
      have := (h.current hspent hheld).1
      simp [hfresh] at this
  · intro hspent hstarted
    obtain ⟨hkept, hfired⟩ := hadvances.started hstarted
    rw [hkept, hsame] at hstarted
    obtain ⟨hlongFired, hkey⟩ := h.current hspent hstarted
    rw [hrawNext, hraw]
    refine ⟨?_, hkey⟩
    rcases hfired with hfired | hfired
    · rw [hfired, hlong]
      exact hlongFired
    · exact hfired

/-- The numbers that are spent once an event acknowledges something. -/
def Spends (spent : ℕ → Prop) (presses : List Press) (number : ℕ) : Prop :=
  spent number ∨ ∃ press ∈ presses, press.number = number

/-- An event may spend its presses, unless a press of a key that repeats is still held. -/
theorem Silent.settle_spend (h : Silent edge edged spent reading.logicalKey)
    (hrecorded : Recorded edge edged spent) (hcomes : Comes edge reading waiting pending)
    (hwaiting : waiting.Ok) (hadvanced : Advanced waiting reading (next, rest))
    (hmem : site ∈ pending ++ rest)
    (hsite : site = .long ∨ site = .repetition → repeats reading.logicalKey = false) :
    Silent next (KeyTracker.settle edge next edged) (Spends spent (site.presses edged edged))
      reading.logicalKey := by
  have hadvances : Advances waiting reading next rest := hadvanced.advances
  have hsettled := h.settle hcomes hadvanced
  obtain ⟨hsame, hlong, hraw⟩ := hcomes.same
  rcases List.mem_append.mp hmem with hmem | hmem
  · -- The pending short press: no other press has its number.
    obtain ⟨rfl, hbefore, -⟩ := hcomes.mem hmem
    have hlt := hrecorded.pending_lt hbefore
    refine ⟨?_, ?_⟩
    · intro hsome
      rintro (hspent | ⟨press, hpress, hnumber⟩)
      · exact hsettled.pending hsome hspent
      · obtain rfl := List.mem_singleton.mp hpress
        rcases @settle_pending_cases _ _ _ _ edged _ _ hcomes hadvances hsome with
          ⟨-, hnil, -⟩ | ⟨hheld, -, -, -, heq⟩
        · rw [hnil] at hmem
          exact absurd hmem List.not_mem_nil
        · rw [heq] at hnumber
          exact absurd hnumber (Nat.ne_of_lt (hlt hheld))
    · rintro (hspent | ⟨press, hpress, hnumber⟩) hstarted
      · exact hsettled.current hspent hstarted
      · obtain rfl := List.mem_singleton.mp hpress
        rw [(hadvances.started hstarted).1, hsame] at hstarted
        exact absurd hnumber (Nat.ne_of_lt (hlt hstarted))
  · -- The present press: it is over, or its long press has fired.
    obtain ⟨hheld, hcases⟩ := hadvances.mem hwaiting hmem
    rw [hsame] at hheld
    refine ⟨?_, ?_⟩
    · intro hsome
      rintro (hspent | ⟨press, hpress, hnumber⟩)
      · exact hsettled.pending hsome hspent
      · rcases @settle_pending_cases _ _ _ _ edged _ _ hcomes hadvances hsome with
          ⟨hbefore, -, hdouble, heq⟩ | ⟨-, -, -, hnil, -⟩
        · have hlt := hrecorded.pending_lt hbefore hheld
          have hcurrent : press = edged.current := by
            rcases hcases with ⟨rfl | rfl, -⟩ | ⟨rfl, -⟩ | ⟨rfl, -⟩
            · exact List.mem_singleton.mp hpress
            · exact absurd hmem hdouble
            · exact List.mem_singleton.mp hpress
            · exact List.mem_singleton.mp hpress
          rw [heq, hcurrent] at hnumber
          exact absurd hnumber (Nat.ne_of_gt hlt)
        · rw [hnil] at hmem
          exact absurd hmem List.not_mem_nil
    · intro _ hstarted
      rcases hcases with ⟨-, -, hended⟩ | ⟨rfl, -, hfired⟩ | ⟨rfl, -, hfired, -, -⟩
      · simp [hended] at hstarted
      · exact ⟨hfired, fun _ => hsite (.inl rfl)⟩
      · exact ⟨hfired, fun _ => hsite (.inr rfl)⟩

theorem pairwise_presses (hrecorded : Recorded edge edged spent)
    (hcomes : Comes edge reading waiting pending) (hwaiting : waiting.Ok)
    (hadvances : Advances waiting reading next rest) :
    (pending ++ rest).Pairwise fun site site' =>
      ∀ press ∈ site.presses edged edged, ∀ press' ∈ site'.presses edged edged,
        press.number ≠ press'.number := by
  refine List.pairwise_append.mpr ⟨?_, ?_, ?_⟩
  · cases hcomes with
    | waits => exact List.Pairwise.nil
    | out => exact push_pairwise reading _
  · cases hadvances with
    | keeps | spent | pends => exact List.Pairwise.nil
    | short | double | long | repetition => exact push_pairwise reading _
  · intro site hsite site' hsite' press hpress press' hpress'
    obtain ⟨rfl, hbefore, hcame⟩ := hcomes.mem hsite
    obtain rfl := List.mem_singleton.mp hpress
    obtain ⟨hheld, hcases⟩ := hadvances.mem hwaiting hsite'
    rw [hcomes.same.1] at hheld
    have hcurrent : press' = edged.current := by
      rcases hcases with ⟨rfl | rfl, -⟩ | ⟨rfl, -⟩ | ⟨rfl, -⟩
      · exact List.mem_singleton.mp hpress'
      · have hwaits := (hadvances.pending_of_double hsite').1
        simp [hcame] at hwaits
      · exact List.mem_singleton.mp hpress'
      · exact List.mem_singleton.mp hpress'
    rw [hcurrent]
    exact Nat.ne_of_lt (hrecorded.pending_lt hbefore hheld)

/-- The presses of an event are not later than the key's last one. -/
theorem presses_le (hrecorded : Recorded edge edged spent)
    (hcomes : Comes edge reading waiting pending)
    (hadvances : Advances waiting reading next rest)
    (hmem : site ∈ pending ++ rest) {press : Press} (hpress : press ∈ site.presses edged edged) :
    press.number ≤ edged.current.number := by
  have hpendingSite : site = .pendingShort ∨ site = .releaseDouble →
      edge.pendingShortReleaseMs.isSome := by
    rintro (rfl | rfl)
    · rcases List.mem_append.mp hmem with hmem | hmem
      · exact (hcomes.mem hmem).2.1
      · cases hadvances with
        | keeps | spent | pends => exact absurd hmem List.not_mem_nil
        | short | double | long | repetition => exact absurd (mem_push hmem) (by decide)
    · rcases List.mem_append.mp hmem with hmem | hmem
      · exact absurd (hcomes.mem hmem).1 (by decide)
      · exact hcomes.isSome_before (hadvances.pending_of_double hmem).1
  cases site with
  | pendingShort =>
    obtain rfl := List.mem_singleton.mp hpress
    exact hrecorded.pending_le (hpendingSite (.inl rfl))
  | releaseDouble =>
    rcases List.mem_cons.mp hpress with rfl | hpress
    · exact hrecorded.pending_le (hpendingSite (.inr rfl))
    · obtain rfl := List.mem_singleton.mp hpress
      exact Nat.le_refl _
  | releaseShort | long | repetition =>
    obtain rfl := List.mem_singleton.mp hpress
    exact Nat.le_refl _

end Stages

/-! ## One sample -/

theorem presses_noted (site : PushSite) :
    site.presses record (tracker.noted record reading) =
      site.presses (tracker.edgeRecord record reading) (tracker.edgeRecord record reading) := by
  cases site <;> rfl

theorem Advanced.ok_waiting_of_comes {edge waiting : KeyTracker} {pending : List PushSite}
    (hedge : edge.Ok) (hcomes : Comes edge reading waiting pending) : waiting.Ok := by
  cases hcomes with
  | waits => exact hedge
  | out => exact { hedge with }

theorem Recorded.sample (h : Recorded tracker record spent) :
    Recorded (tracker.sampleKey reading).1 (tracker.noted record reading) spent := by
  obtain ⟨waiting, pending, rest, hcomes, hadvanced, -⟩ := @sampleKey_spec _ reading h.ok
  rw [noted_eq_settle]
  exact h.updateRawTracker.settle hcomes hadvanced

theorem Recorded.pairwise_presses (h : Recorded tracker record spent) :
    (tracker.sampleKey reading).2.Pairwise fun site site' =>
      ∀ press ∈ site.presses record (tracker.noted record reading),
        ∀ press' ∈ site'.presses record (tracker.noted record reading),
          press.number ≠ press'.number := by
  obtain ⟨waiting, pending, rest, hcomes, hadvanced, hsites⟩ := @sampleKey_spec _ reading h.ok
  have hedge := @Recorded.updateRawTracker _ _ reading _ h
  have hwaiting := Advanced.ok_waiting_of_comes hedge.ok hcomes
  simp only [presses_noted]
  rw [hsites]
  exact KeyTracker.pairwise_presses hedge hcomes hwaiting hadvanced.advances

/-- A sample of a silent key gives no event of a spent press, and leaves the key silent. -/
theorem silent_sample (hrecorded : Recorded tracker record spent)
    (h : Silent tracker record spent reading.logicalKey)
    (hbounce : DoesNotBounce tracker record spent reading.pressed) :
    Silent (tracker.sampleKey reading).1 (tracker.noted record reading) spent
        reading.logicalKey ∧
      ∀ site ∈ (tracker.sampleKey reading).2,
        ∀ press ∈ site.presses record (tracker.noted record reading), ¬ spent press.number := by
  obtain ⟨waiting, pending, rest, hcomes, hadvanced, hsites⟩ :=
    @sampleKey_spec _ reading hrecorded.ok
  have hedge := @Recorded.updateRawTracker _ _ reading _ hrecorded
  have hwaiting := Advanced.ok_waiting_of_comes hedge.ok hcomes
  have hsilent := h.updateRawTracker hrecorded hbounce
  simp only [presses_noted]
  rw [hsites, noted_eq_settle]
  refine ⟨hsilent.settle hcomes hadvanced, ?_⟩
  intro site hmem press hpress
  exact hsilent.not_spent hcomes hwaiting hadvanced.advances hmem hpress

/-- So it does if one of the events is spent, other than of a key that repeats and is held. -/
theorem silent_sample_spend (hrecorded : Recorded tracker record spent)
    (h : Silent tracker record spent reading.logicalKey)
    (hbounce : DoesNotBounce tracker record spent reading.pressed) {site : PushSite}
    (hmem : site ∈ (tracker.sampleKey reading).2)
    (hsite : site = .long ∨ site = .repetition → repeats reading.logicalKey = false) :
    Silent (tracker.sampleKey reading).1 (tracker.noted record reading)
      (Spends spent (site.presses record (tracker.noted record reading)))
      reading.logicalKey := by
  obtain ⟨waiting, pending, rest, hcomes, hadvanced, hsites⟩ :=
    @sampleKey_spec _ reading hrecorded.ok
  have hedge := @Recorded.updateRawTracker _ _ reading _ hrecorded
  have hwaiting := Advanced.ok_waiting_of_comes hedge.ok hcomes
  have hsilent := h.updateRawTracker hrecorded hbounce
  rw [presses_noted, noted_eq_settle]
  rw [hsites] at hmem
  exact hsilent.settle_spend hedge hcomes hwaiting hadvanced hmem hsite

theorem Recorded.presses_le (h : Recorded tracker record spent) {site : PushSite}
    (hmem : site ∈ (tracker.sampleKey reading).2) {press : Press}
    (hpress : press ∈ site.presses record (tracker.noted record reading)) :
    press.number ≤ (tracker.noted record reading).current.number := by
  obtain ⟨waiting, pending, rest, hcomes, hadvanced, hsites⟩ := @sampleKey_spec _ reading h.ok
  have hedge := @Recorded.updateRawTracker _ _ reading _ h
  rw [presses_noted] at hpress
  rw [hsites] at hmem
  exact KeyTracker.presses_le hedge hcomes hadvanced.advances hmem hpress

end KeyTracker

end FluxPurr.FrontPanel
