import FluxPurr.FrontPanel.Recogniser

/-!
# What one sample does to a key

`KeyTracker.sampleKey` runs five stages.  `Advances` lists what the last three may do between
them, in the terms that matter for the events to come: whether a press is in progress
(`pressStartedMs`), whether its long press has fired, and whether a short press is pending.
`sampleKey_spec` puts the stages together.
-/

namespace FluxPurr.FrontPanel.KeyTracker

variable {tracker next : KeyTracker} {reading : Reading} {sites : List PushSite}

/-- What holds of a tracker between samples. -/
structure Ok (tracker : KeyTracker) : Prop where
  raw : tracker.rawPressed = true → tracker.pressStartedMs.isSome
  stable : tracker.stablePressed = true → tracker.pressStartedMs.isSome
  long : tracker.longFired = true → tracker.pressStartedMs.isSome → tracker.stablePressed = true

theorem ok_new : Ok .new := ⟨nofun, nofun, nofun⟩

theorem mem_push {site site' : PushSite} (h : site' ∈ push reading site) : site' = site := by
  unfold push at h
  split_ifs at h
  · exact List.mem_singleton.mp h
  · exact absurd h List.not_mem_nil

theorem push_pairwise {R : PushSite → PushSite → Prop} (reading : Reading) (site : PushSite) :
    (push reading site).Pairwise R := by
  unfold push
  split_ifs
  · exact List.pairwise_singleton R site
  · exact List.Pairwise.nil

/-! ## The raw edge -/

@[simp] theorem updateRawTracker_rawPressed :
    (tracker.updateRawTracker reading).rawPressed = reading.pressed := by
  unfold updateRawTracker
  split_ifs with hsame hpressed
  · exact hsame.symm
  · rfl
  · rfl

@[simp] theorem updateRawTracker_stablePressed :
    (tracker.updateRawTracker reading).stablePressed = tracker.stablePressed := by
  unfold updateRawTracker
  split_ifs
  · rfl
  · rfl
  · rfl

@[simp] theorem updateRawTracker_pendingShortReleaseMs :
    (tracker.updateRawTracker reading).pendingShortReleaseMs = tracker.pendingShortReleaseMs := by
  unfold updateRawTracker
  split_ifs
  · rfl
  · rfl
  · rfl

/-- Without a new press edge, a press in progress and its long press are left alone. -/
theorem updateRawTracker_of_not_edge (h : reading.pressed = true → tracker.rawPressed = true) :
    (tracker.updateRawTracker reading).pressStartedMs = tracker.pressStartedMs ∧
      (tracker.updateRawTracker reading).longFired = tracker.longFired := by
  unfold updateRawTracker
  split_ifs with hsame hpressed
  · exact ⟨rfl, rfl⟩
  · exact absurd (hpressed.trans (h hpressed).symm) hsame
  · exact ⟨rfl, rfl⟩

theorem updateRawTracker_of_edge (hpressed : reading.pressed = true)
    (hraw : tracker.rawPressed = false) :
    (tracker.updateRawTracker reading).pressStartedMs = some reading.nowMs ∧
      (tracker.updateRawTracker reading).longFired = false := by
  unfold updateRawTracker
  rw [if_neg (by simp [hpressed, hraw]), if_pos hpressed]
  exact ⟨rfl, rfl⟩

theorem Ok.updateRawTracker (h : tracker.Ok) : (tracker.updateRawTracker reading).Ok := by
  by_cases hedge : reading.pressed = true ∧ tracker.rawPressed = false
  · obtain ⟨hstarted, hlong⟩ := updateRawTracker_of_edge hedge.1 hedge.2
    refine ⟨?_, ?_, ?_⟩
    · simp [hstarted]
    · simp [hstarted]
    · simp [hlong]
  · have hheld : reading.pressed = true → tracker.rawPressed = true := by
      intro hpressed
      by_contra hraw
      exact hedge ⟨hpressed, by simpa using hraw⟩
    obtain ⟨hstarted, hlong⟩ := updateRawTracker_of_not_edge hheld
    refine ⟨?_, ?_, ?_⟩
    · intro hraw
      rw [hstarted]
      exact h.raw (hheld (by simpa using hraw))
    · intro hstable
      rw [hstarted]
      exact h.stable (by simpa using hstable)
    · intro hfired hsome
      rw [hlong] at hfired
      rw [hstarted] at hsome
      simpa using h.long hfired hsome

/-! ## The pending short press -/

/-- The pending short press stays, or comes out. -/
inductive Comes (tracker : KeyTracker) (reading : Reading) : KeyTracker → List PushSite → Prop
  | waits : Comes tracker reading tracker []
  | out {released : ℕ} (hpending : tracker.pendingShortReleaseMs = some released)
      (hlate : reading.gestures.supports .doublePress = true → released < reading.nowMs) :
      Comes tracker reading { tracker with pendingShortReleaseMs := none }
        (push reading .pendingShort)

theorem emitPendingShortPress_comes :
    Comes tracker reading (tracker.emitPendingShortPress reading).1
      (tracker.emitPendingShortPress reading).2 := by
  unfold emitPendingShortPress
  cases hpending : tracker.pendingShortReleaseMs with
  | none => exact .waits
  | some released =>
    dsimp only
    split_ifs with hwindow
    · exact .waits
    · refine .out hpending ?_
      intro hdouble
      have hlate : ¬ reading.nowMs - released ≤ reading.timings.doubleClickMs :=
        fun hle => hwindow ⟨hdouble, hle⟩
      omega

/-! ## The other stages -/

/-- What may become of a press. -/
inductive Advances (tracker : KeyTracker) (reading : Reading) (next : KeyTracker) :
    List PushSite → Prop
  | keeps (hstarted : next.pressStartedMs = tracker.pressStartedMs)
      (hlong : next.longFired = tracker.longFired)
      (hpending : next.pendingShortReleaseMs = tracker.pendingShortReleaseMs) :
      Advances tracker reading next []
  | spent (hended : next.pressStartedMs = none)
      (hpending : next.pendingShortReleaseMs = tracker.pendingShortReleaseMs) :
      Advances tracker reading next []
  | short (hheld : tracker.pressStartedMs.isSome) (hfresh : tracker.longFired = false)
      (hended : next.pressStartedMs = none)
      (hpending : next.pendingShortReleaseMs = tracker.pendingShortReleaseMs) :
      Advances tracker reading next (push reading .releaseShort)
  | pends (hheld : tracker.pressStartedMs.isSome) (hfresh : tracker.longFired = false)
      (hended : next.pressStartedMs = none)
      (hdouble : reading.gestures.supports .doublePress = true)
      (hnew : tracker.pendingShortReleaseMs ≠ some reading.nowMs)
      (hpending : next.pendingShortReleaseMs = some reading.nowMs) :
      Advances tracker reading next []
  | double (hheld : tracker.pressStartedMs.isSome) (hfresh : tracker.longFired = false)
      (hended : next.pressStartedMs = none)
      (hbefore : tracker.pendingShortReleaseMs.isSome)
      (hpending : next.pendingShortReleaseMs = none) :
      Advances tracker reading next (push reading .releaseDouble)
  | long (hheld : tracker.pressStartedMs.isSome) (hfresh : tracker.longFired = false)
      (hstarted : next.pressStartedMs = tracker.pressStartedMs) (hfired : next.longFired = true)
      (hpending : next.pendingShortReleaseMs = none) :
      Advances tracker reading next (push reading .long)
  | repetition (hraw : tracker.rawPressed = true) (hkey : repeats reading.logicalKey = true)
      (hfired : tracker.longFired = true)
      (hstarted : next.pressStartedMs = tracker.pressStartedMs)
      (hlong : next.longFired = tracker.longFired)
      (hpending : next.pendingShortReleaseMs = tracker.pendingShortReleaseMs) :
      Advances tracker reading next (push reading .repetition)

/-- A released press gives its short press, waits for a second one, or makes a double press. -/
theorem emitReleaseGesture_advances (hheld : tracker.pressStartedMs.isSome)
    (hfresh : tracker.longFired = false) {released : KeyTracker}
    (hended : released.pressStartedMs = none)
    (hsame : released.pendingShortReleaseMs = tracker.pendingShortReleaseMs) :
    Advances tracker reading (released.emitReleaseGesture reading).1
        (released.emitReleaseGesture reading).2 ∧
      (released.emitReleaseGesture reading).1.pressStartedMs = none ∧
      (released.emitReleaseGesture reading).1.rawPressed = released.rawPressed ∧
      (released.emitReleaseGesture reading).1.stablePressed = released.stablePressed := by
  unfold emitReleaseGesture
  split_ifs with hdouble
  · exact ⟨.short hheld hfresh hended hsame, hended, rfl, rfl⟩
  · have hsupported : reading.gestures.supports .doublePress = true := by simpa using hdouble
    cases hpending : released.pendingShortReleaseMs with
    | none =>
      refine ⟨.pends hheld hfresh hended hsupported ?_ rfl, hended, rfl, rfl⟩
      simp [← hsame, hpending]
    | some previousReleaseMs =>
      dsimp only
      split_ifs with hwindow
      · refine ⟨.double hheld hfresh hended ?_ rfl, hended, rfl, rfl⟩
        simp [← hsame, hpending]
      · refine ⟨.pends hheld hfresh hended hsupported ?_ rfl, hended, rfl, rfl⟩
        rw [← hsame, hpending]
        intro hnow
        obtain rfl := Option.some.inj hnow
        omega

theorem emitLongPress_of_not_stable (h : tracker.stablePressed = false) :
    tracker.emitLongPress reading = (tracker, []) := by
  unfold emitLongPress
  rw [if_neg (by simp [h])]

theorem emitRepeatPress_of_not_stable (h : tracker.stablePressed = false) :
    tracker.emitRepeatPress reading = (tracker, []) := by
  unfold emitRepeatPress
  rw [if_neg (by simp [h])]

/-- The first repetition is not due before its interval is over. -/
theorem emitRepeatPress_of_fired
    (h : tracker.nextRepeatMs = some (reading.nowMs + frontpanelRepeatInitialIntervalMs)) :
    tracker.emitRepeatPress reading = (tracker, []) := by
  unfold emitRepeatPress
  rw [if_neg]
  rintro ⟨-, -, -, -, repeatMs, hrepeat, hle⟩
  rw [h] at hrepeat
  obtain rfl := Option.some.inj hrepeat
  have hinterval : frontpanelRepeatInitialIntervalMs = 120 := rfl
  omega

/-- The long press and the repetitions. -/
def emitHeld (tracker : KeyTracker) (reading : Reading) : KeyTracker × List PushSite :=
  let long := tracker.emitLongPress reading
  let repetition := long.1.emitRepeatPress reading
  (repetition.1, long.2 ++ repetition.2)

/-- The stages from the debounced edge on. -/
def advance (tracker : KeyTracker) (reading : Reading) : KeyTracker × List PushSite :=
  let release := tracker.updateStableTracker reading
  let held := release.1.emitHeld reading
  (held.1, release.2 ++ held.2)

theorem sampleKey_eq (tracker : KeyTracker) (reading : Reading) :
    tracker.sampleKey reading =
      let pending := (tracker.updateRawTracker reading).emitPendingShortPress reading
      let rest := pending.1.advance reading
      (rest.1, pending.2 ++ rest.2) := by
  simp only [sampleKey, advance, emitHeld, List.append_assoc]

theorem emitHeld_of_not_stable (h : tracker.stablePressed = false) :
    tracker.emitHeld reading = (tracker, []) := by
  simp [emitHeld, emitLongPress_of_not_stable h, emitRepeatPress_of_not_stable h]

/-- What the stages after the pending short press establish. -/
structure Advanced (tracker : KeyTracker) (reading : Reading)
    (result : KeyTracker × List PushSite) : Prop where
  advances : Advances tracker reading result.1 result.2
  ok : result.1.Ok
  raw : result.1.rawPressed = tracker.rawPressed

/-- A press that is held gives its long press once, and then repetitions. -/
theorem emitHeld_advanced {held : KeyTracker} (hok : held.Ok)
    (hraw : held.rawPressed = tracker.rawPressed)
    (hstarted : held.pressStartedMs = tracker.pressStartedMs)
    (hlong : held.longFired = tracker.longFired)
    (hpending : held.pendingShortReleaseMs = tracker.pendingShortReleaseMs) :
    Advanced tracker reading (held.emitHeld reading) := by
  unfold emitHeld
  dsimp only
  unfold emitLongPress
  split_ifs with hdue
  · obtain ⟨hstable, hfresh, -, -⟩ := hdue
    have hsome := hok.stable hstable
    have hquiet := @emitRepeatPress_of_fired
      { held with
        longFired := true
        pendingShortReleaseMs := none
        nextRepeatMs := some (reading.nowMs + frontpanelRepeatInitialIntervalMs) } reading rfl
    dsimp only
    rw [hquiet, List.append_nil]
    refine ⟨.long (hstarted ▸ hsome) (hlong ▸ hfresh) hstarted rfl rfl, ?_, hraw⟩
    exact ⟨hok.raw, hok.stable, fun _ _ => hstable⟩
  · dsimp only
    unfold emitRepeatPress
    split_ifs with hrepeat
    · obtain ⟨hstable, hpressed, hfired, hkey, -⟩ := hrepeat
      refine ⟨.repetition (hraw ▸ hpressed) hkey (hlong ▸ hfired) hstarted hlong hpending, ?_, hraw⟩
      exact ⟨hok.raw, hok.stable, hok.long⟩
    · exact ⟨.keeps hstarted hlong hpending, hok, hraw⟩

theorem ok_of_released (hstarted : tracker.pressStartedMs = none)
    (hraw : tracker.rawPressed = false)
    (hstable : tracker.stablePressed = false) : tracker.Ok :=
  ⟨by simp [hraw], by simp [hstable], by simp [hstarted]⟩

/-- The debounced release of a press whose long press has not fired. -/
theorem release_advanced {released : KeyTracker} (hheld : tracker.pressStartedMs.isSome)
    (hfresh : tracker.longFired = false) (hraw : tracker.rawPressed = false)
    (hended : released.pressStartedMs = none)
    (hsame : released.pendingShortReleaseMs = tracker.pendingShortReleaseMs)
    (hrawReleased : released.rawPressed = false) (hstable : released.stablePressed = false) :
    Advanced tracker reading
      (((released.emitReleaseGesture reading).1.emitHeld reading).1,
        (released.emitReleaseGesture reading).2 ++
          ((released.emitReleaseGesture reading).1.emitHeld reading).2) := by
  obtain ⟨hadvances, hstarted, hraw', hstable'⟩ :=
    @emitReleaseGesture_advances _ reading hheld hfresh _ hended hsame
  rw [emitHeld_of_not_stable (hstable'.trans hstable), List.append_nil]
  refine ⟨hadvances, ?_, (hraw'.trans hrawReleased).trans hraw.symm⟩
  exact ok_of_released hstarted (hraw'.trans hrawReleased) (hstable'.trans hstable)

/-- No long press of a press that is not debounced yet has fired. -/
theorem Ok.longFired_eq_false (hok : tracker.Ok) (hsome : tracker.pressStartedMs.isSome)
    (hstable : tracker.stablePressed = false) : tracker.longFired = false := by
  by_contra hfired
  have := hok.long (by simpa using hfired) hsome
  simp [hstable] at this

theorem advance_advanced (hok : tracker.Ok) : Advanced tracker reading
    (tracker.advance reading) := by
  unfold advance
  dsimp only
  unfold updateStableTracker
  split
  · -- A tap that was released before its press was debounced.
    rename_i hquick
    obtain ⟨hraw, hstable, hsome, -⟩ := hquick
    exact release_advanced hsome (hok.longFired_eq_false hsome hstable) hraw rfl rfl hraw hstable
  · split
    · exact emitHeld_advanced hok rfl rfl rfl rfl
    · rename_i hchanged
      have hdiffers : tracker.rawPressed ≠ tracker.stablePressed := fun hsame => hchanged (.inl hsame)
      dsimp only
      cases hraw : tracker.rawPressed with
      | true =>
        have hstable : tracker.stablePressed = false := by
          rw [hraw] at hdiffers
          simpa using hdiffers.symm
        have hsome := hok.raw hraw
        have hfresh := hok.longFired_eq_false hsome hstable
        rw [if_pos rfl]
        have hheld : Ok { tracker with
            rawPressed := true
            stablePressed := true
            nextRepeatMs := none
            longFired := false } := ⟨fun _ => hsome, fun _ => hsome, nofun⟩
        exact emitHeld_advanced hheld hraw.symm rfl hfresh.symm rfl
      | false =>
        rw [if_neg (by simp)]
        split
        · rename_i htaken
          exact release_advanced htaken.1 htaken.2 hraw rfl rfl rfl rfl
        · -- The long press has fired, and the release gives nothing.
          dsimp only
          rw [emitHeld_of_not_stable rfl]
          exact ⟨.spent rfl rfl, ok_of_released rfl rfl rfl, hraw.symm⟩

theorem sampleKey_spec (hok : tracker.Ok) :
    ∃ waiting pending rest,
      Comes (tracker.updateRawTracker reading) reading waiting pending ∧
      Advanced waiting reading ((tracker.sampleKey reading).1, rest) ∧
      (tracker.sampleKey reading).2 = pending ++ rest := by
  have hedge : (tracker.updateRawTracker reading).Ok := hok.updateRawTracker
  rw [sampleKey_eq]
  dsimp only
  generalize tracker.updateRawTracker reading = edge at hedge
  have hcomes := @emitPendingShortPress_comes edge reading
  have hwaiting : (edge.emitPendingShortPress reading).1.Ok := by
    generalize edge.emitPendingShortPress reading = come at hcomes
    obtain ⟨waiting, sites⟩ := come
    cases hcomes with
    | waits => exact hedge
    | out => exact ⟨hedge.raw, hedge.stable, hedge.long⟩
  exact ⟨_, _, _, hcomes, advance_advanced hwaiting, rfl⟩

end FluxPurr.FrontPanel.KeyTracker
