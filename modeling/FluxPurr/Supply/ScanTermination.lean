import FluxPurr.Supply.ProbeState
import FluxPurr.Supply.ScanEnvelope

/-!
# The rapid scan ends

The 15-minute clock of a stage starts again with each probe, so it bounds a scan only if there
are boundedly many of them.  `rank` counts what is left: the ten-degree steps up to the warmest
temperature, one retest of a hot boundary, the first probe, and the opening of the sweep.  Each
step that starts the clock again takes one of them away, and no other step gives one back
(`Step.paced`), as long as no probe is wasted.
-/

namespace FluxPurr.Supply

open FluxPurr.Runs

namespace ProbeState

variable {state after : ProbeState} {nowMs : ℕ} {temperature : ℤ} {probedAt : Option ℤ}

instance (state : ProbeState) : Decidable state.Ended := inferInstanceAs (Decidable (_ ∨ _))

instance (state : ProbeState) : Decidable state.LastProbe := inferInstanceAs (Decidable (_ ∧ _))

/-- The temperature at which the last probe began, after a step between these phases. -/
def probedAfter (before after : ScanPhase) (temperature : ℤ) (probedAt : Option ℤ) : Option ℤ :=
  if before = .rapidWarmup ∧ after = .sweep ∨ before ≠ .terminalProbe ∧ after = .terminalProbe then
    some temperature
  else probedAt

theorem probedAfter_self (phase : ScanPhase) :
    probedAfter phase phase temperature probedAt = probedAt := by
  refine if_neg ?_
  rintro (⟨hbefore, hafter⟩ | ⟨hbefore, hafter⟩)
  · rw [hbefore] at hafter
    cases hafter
  · exact hbefore hafter

/-! ## What is left -/

/-- The ten-degree steps up to the warmest temperature. -/
def warmingLeft (probedAt : Option ℤ) : ℕ :=
  match probedAt with
  | none => 66
  | some probed => ((32767 - probed) / rapidReprobeStepCentiC).toNat

def opening (state : ProbeState) : Bool := state.phase == .baseline || state.phase == .preflight

/-- The warm plate has failed twice, or the retest of its one failure is under way or has reached
the ceiling. -/
def ceilingKnown (state : ProbeState) (probedAt : Option ℤ) : Bool :=
  probedAt.any fun probed => minBoundaryCoverageCentiC ≤ probed ∧
    (2 ≤ state.rapidFailedProbeCount ∨
      state.rapidFailedProbeCount = 1 ∧
        (state.phase = .sweep ∨ state.sourceMaxMv ≤ state.requestMv))

/-- The restarts of the stage clock that are left. -/
def rank (state : ProbeState) (probedAt : Option ℤ) : ℕ :=
  if state.Ended ∨ state.LastProbe then 0
  else
    1 + warmingLeft probedAt + state.opening.toNat +
      (1 - state.rapidProbeSinceBoundary.toNat) + (1 - (state.ceilingKnown probedAt).toNat)

theorem ceilingKnown_iff :
    state.ceilingKnown probedAt = true ↔ ∃ probed ∈ probedAt,
      minBoundaryCoverageCentiC ≤ probed ∧ (2 ≤ state.rapidFailedProbeCount ∨
        state.rapidFailedProbeCount = 1 ∧
          (state.phase = .sweep ∨ state.sourceMaxMv ≤ state.requestMv)) := by
  unfold ceilingKnown
  simp only [Option.any_eq_true, decide_eq_true_eq, Option.mem_def]

theorem ceilingKnown_mono {probed' : Option ℤ}
    (hwarm : ∀ probed ∈ probedAt, ∃ later ∈ probed', probed ≤ later)
    (hcount : 2 ≤ state.rapidFailedProbeCount ∨ state.rapidFailedProbeCount = 1 ∧
        (state.phase = .sweep ∨ state.sourceMaxMv ≤ state.requestMv) →
      2 ≤ after.rapidFailedProbeCount ∨ after.rapidFailedProbeCount = 1 ∧
        (after.phase = .sweep ∨ after.sourceMaxMv ≤ after.requestMv))
    (h : state.ceilingKnown probedAt = true) : after.ceilingKnown probed' = true := by
  obtain ⟨probed, hprobed, hcovered, hknown⟩ := ceilingKnown_iff.mp h
  obtain ⟨later, hlater, hle⟩ := hwarm probed hprobed
  exact ceilingKnown_iff.mpr ⟨later, hlater, hcovered.trans hle, hcount hknown⟩

theorem rank_of_ended (h : state.Ended) : state.rank probedAt = 0 := if_pos (.inl h)

theorem rank_of_lastProbe (h : state.LastProbe) : state.rank probedAt = 0 := if_pos (.inr h)

theorem rank_pos (hrunning : ¬ (state.Ended ∨ state.LastProbe)) : 0 < state.rank probedAt := by
  rw [rank, if_neg hrunning]
  omega

/-- What is left counts for nothing more. -/
structure NoneBack (state : ProbeState) (probedAt : Option ℤ) (after : ProbeState)
    (probedAfter : Option ℤ) : Prop where
  warming : warmingLeft probedAfter ≤ warmingLeft probedAt
  opening : after.opening = true → state.opening = true
  first : state.rapidProbeSinceBoundary = true → after.rapidProbeSinceBoundary = true
  ceiling : state.ceilingKnown probedAt = true → after.ceilingKnown probedAfter = true

open NoneBack

section Rank

variable {probed' : Option ℤ} (hrunning : ¬ (state.Ended ∨ state.LastProbe))
  (h : NoneBack state probedAt after probed')
include hrunning h

theorem NoneBack.rank_le : after.rank probed' ≤ state.rank probedAt := by
  have hwarming := h.warming
  have hopening := Bool.toNat_le_toNat h.opening
  have hfirst := Bool.toNat_le_toNat h.first
  have hceiling := Bool.toNat_le_toNat h.ceiling
  rw [rank, rank, if_neg hrunning]
  split
  · exact Nat.zero_le _
  · omega

theorem NoneBack.rank_lt (hlower : warmingLeft probed' < warmingLeft probedAt ∨
      state.opening = true ∧ after.opening = false ∨
      state.rapidProbeSinceBoundary = false ∧ after.rapidProbeSinceBoundary = true ∨
      state.ceilingKnown probedAt = false ∧ after.ceilingKnown probed' = true) :
    after.rank probed' < state.rank probedAt := by
  have hwarming := h.warming
  have hopening := Bool.toNat_le_toNat h.opening
  have hfirst := Bool.toNat_le_toNat h.first
  have hceiling := Bool.toNat_le_toNat h.ceiling
  rw [rank, rank, if_neg hrunning]
  split
  · omega
  · rcases hlower with hlower | ⟨hbefore, hafter⟩ | ⟨hbefore, hafter⟩ | ⟨hbefore, hafter⟩
    · omega
    all_goals
      simp only [hbefore, hafter, Bool.toNat_true, Bool.toNat_false] at *
      omega

end Rank

/-- The probes that a new scan has left. -/
def probeLimit : ℕ := 70

theorem rank_le_probeLimit (state : ProbeState) : state.rank none ≤ probeLimit := by
  have hwarming : warmingLeft none = 66 := rfl
  have hlimit : probeLimit = 70 := rfl
  have hopening := state.opening.toNat_le
  unfold rank
  split <;> omega

/-! ## What every step keeps -/

/-- What holds of the scan between two samples. -/
structure Sound (state : ProbeState) (probedAt : Option ℤ) : Prop extends state.Rapid where
  confirmed : state.phase ≠ .terminalProbe →
    ∀ previous ∈ state.lastRapidProbeTemperatureCentiC, ∀ probed ∈ probedAt, probed ≤ previous
  hot : state.hotBoundaryReached = true ↔ 1 ≤ state.rapidFailedProbeCount
  reached : 1 ≤ state.rapidFailedProbeCount → state.rapidBoundaryReached = true
  below : state.rapidBoundaryReached = true →
    state.phase = .rapidWarmup ∨ state.phase = .sourceBoundaryRecovery →
    state.sourceMaxMv ≤ state.requestMv ∨
      ∀ failedMv ∈ state.rapidFailedProbeMv, state.requestMv < failedMv

theorem Step.sound (h : Step nowMs temperature probedAt state after)
    (hsound : state.Sound probedAt) :
    after.Ended ∨ after.Sound (probedAfter state.phase after.phase temperature probedAt) := by
  have hcurrent := hsound.current
  cases h with
  | ended h => exact .inl h
  | kept =>
    rw [probedAfter_self]
    exact .inr hsound
  | baselined hphase =>
    have hma := hcurrent (by simp [Ended, hphase]) (by simp [hphase])
    have hconfirmed := hsound.confirmed (by simp [hphase])
    rw [hphase]
    exact .inr
      { hsound with
        current := fun _ _ => hma
        phase := rfl
        confirmed := fun _ => hconfirmed
        below := fun _ hother => by simp at hother }
  | opened hphase =>
    have hconfirmed := hsound.confirmed (by simp [hphase])
    rw [hphase]
    exact .inr
      { hsound with
        probe := rfl
        current := fun _ _ => rfl
        phase := rfl
        confirmed := fun _ => hconfirmed
        below := fun _ hother => by simp at hother }
  | climbed hphase =>
    have hma := hcurrent (by simp [Ended, hphase]) (by simp [hphase])
    have hconfirmed := hsound.confirmed (by simp [hphase])
    rw [hphase]
    exact .inr
      { hsound with
        current := fun _ _ => hma
        phase := rfl
        confirmed := fun _ => hconfirmed
        below := fun _ hother => by simp at hother }
  | topped hphase hceiling =>
    have hma := hcurrent (by simp [Ended, hphase]) (by simp [hphase])
    rw [hphase]
    exact .inr
      { hsound with
        current := fun _ _ => hma
        phase := rfl
        confirmed := fun _ => nofun
        below := fun _ _ => .inl hceiling }
  | flattened hphase hflat =>
    have hma := hcurrent (by simp [Ended, hphase]) (by simp [hphase])
    rw [hphase]
    exact .inr
      { hsound with
        current := fun _ _ => hma
        phase := rfl
        confirmed := fun _ => nofun
        below := fun hreached _ => .inr (hflat hreached).2 }
  | @fellBack requestMv hphase hwarm hlower =>
    have hother : state.phase ≠ .terminalProbe := by
      rcases hphase with hphase | hphase <;> rw [hphase] <;> decide
    have hma : state.requestMa = 3000 := by
      refine hcurrent ?_ hother
      rcases hphase with hphase | hphase <;> simp [Ended, hphase]
    have hsame : probedAfter state.phase .sourceBoundaryRecovery temperature probedAt
        = probedAt := by
      rcases hphase with hphase | hphase <;> rw [hphase] <;> rfl
    have hfailed : ∀ failedMv ∈ some state.requestMv, requestMv < failedMv := by
      rintro failedMv ⟨⟩
      exact hlower
    refine .inr ?_
    show Sound _ (probedAfter state.phase .sourceBoundaryRecovery temperature probedAt)
    rw [hsame]
    refine
      { mode := hsound.mode
        probe := rfl
        current := fun _ _ => hma
        phase := rfl
        confirmed := fun _ => hsound.confirmed hother
        hot := ?_
        reached := fun _ => rfl
        below := fun _ _ => .inr hfailed }
    show decide (minBoundaryCoverageCentiC ≤ temperature) = true ↔
      1 ≤ if minBoundaryCoverageCentiC ≤ temperature then
        min 255 (state.rapidFailedProbeCount + 1) else 0
    split
    case isTrue hcovered => simp [hcovered]
    case isFalse hcold => simp [hcold]
  | recovered hphase hprevious =>
    have hma := hcurrent (by simp [Ended, hphase]) (by simp [hphase])
    have hconfirmed := hsound.confirmed (by simp [hphase])
    have hbelow := fun hreached => hsound.below hreached (.inr hphase)
    rw [hphase]
    refine .inr
      { hsound with
        current := fun _ _ => hma
        phase := rfl
        confirmed := fun _ => ?_
        below := fun hreached _ => hbelow hreached }
    rcases hprevious with rfl | rfl
    · exact hconfirmed
    · nofun
  | warmed hphase hwarm =>
    have hma := hcurrent (by simp [Ended, hphase]) (by simp [hphase])
    have hconfirmed := hsound.confirmed (by simp [hphase])
    have hbelow := fun hreached => hsound.below hreached (.inl hphase)
    have hsame : probedAfter state.phase (state.warmed temperature).phase temperature probedAt
        = probedAt := probedAfter_self state.phase
    rw [hsame]
    refine .inr
      { hsound with
        current := fun _ _ => hma
        confirmed := fun _ => ?_
        below := fun hreached _ => hbelow hreached }
    rintro previous ⟨⟩
    cases hprevious : state.lastRapidProbeTemperatureCentiC with
    | none => exact hwarm
    | some previous => exact hconfirmed previous hprevious
  | reprobed hphase hwarm hroom hdue =>
    rw [hphase]
    refine .inr
      { hsound with
        probe := rfl
        current := fun _ _ => rfl
        phase := rfl
        confirmed := fun _ => ?_
        below := fun _ hother => by rcases hother with h | h <;> cases h }
    rintro previous ⟨⟩ probed ⟨⟩
    exact le_rfl
  | terminal hphase hwarm hmost hdue =>
    rw [hphase]
    exact .inr
      { hsound with
        current := fun _ hother => absurd rfl hother
        phase := rfl
        confirmed := fun hother => absurd rfl hother
        below := fun _ hother => by rcases hother with h | h <;> cases h }
  | left hphase hlast hwarm =>
    rw [hphase]
    refine .inr
      { hsound with
        current := fun _ _ => rfl
        phase := rfl
        confirmed := fun _ => ?_
        below := fun _ _ => .inl le_rfl }
    rintro previous ⟨⟩
    exact hwarm

/-! ## What every step takes -/

/-- A step either leaves the stage clock alone or takes a restart away.  A terminal probe begins
with a restart. -/
inductive Paced (state : ProbeState) (probedAt : Option ℤ) (nowMs : ℕ) (after : ProbeState)
    (probed' : Option ℤ) : Prop
  | kept : after.stageStartedMs = state.stageStartedMs →
      (after.phase = .terminalProbe → state.phase = .terminalProbe) →
      after.rank probed' ≤ state.rank probedAt → Paced state probedAt nowMs after probed'
  | restarted : after.stageStartedMs = nowMs → after.rank probed' < state.rank probedAt →
      Paced state probedAt nowMs after probed'

theorem warmingLeft_le (hwarm : ∀ probed ∈ probedAt, probed ≤ temperature)
    (hleast : -32768 ≤ temperature) :
    warmingLeft (some temperature) ≤ warmingLeft probedAt := by
  cases probedAt with
  | none =>
    show ((32767 - temperature) / 1000).toNat ≤ 66
    omega
  | some probed =>
    have hle := hwarm probed rfl
    show ((32767 - temperature) / 1000).toNat ≤ ((32767 - probed) / 1000).toNat
    omega

theorem warmingLeft_lt (hconfirmed : ∀ previous ∈ state.lastRapidProbeTemperatureCentiC,
      ∀ probed ∈ probedAt, probed ≤ previous)
    (hhold : (state.warmed temperature).HotHold temperature)
    (hleast : -32768 ≤ temperature) (hmost : temperature ≤ 32767) :
    warmingLeft (some temperature) < warmingLeft probedAt := by
  have hstep : rapidReprobeStepCentiC = 1000 := rfl
  obtain ⟨previous, hprevious, hrise⟩ := hhold
  cases probedAt with
  | none =>
    show ((32767 - temperature) / 1000).toNat < 66
    omega
  | some probed =>
    have hle : probed ≤ previous := by
      cases hlast : state.lastRapidProbeTemperatureCentiC with
      | none =>
        -- the request is confirmed at this very sample
        simp only [warmed, hlast, Option.getD_none, Option.mem_def, Option.some.injEq]
          at hprevious
        omega
      | some last =>
        simp only [warmed, hlast, Option.getD_some, Option.mem_def, Option.some.injEq]
          at hprevious
        exact hprevious ▸ hconfirmed last hlast probed rfl
    show ((32767 - temperature) / 1000).toNat < ((32767 - probed) / 1000).toNat
    omega

theorem Step.paced (h : Step nowMs temperature probedAt state after)
    (hsound : state.Sound probedAt) (hleast : -32768 ≤ temperature) (hmost : temperature ≤ 32767) :
    after.Ended ∨ Paced state probedAt nowMs after
      (probedAfter state.phase after.phase temperature probedAt) := by
  have hsame : ∀ probed ∈ probedAt, ∃ later ∈ probedAt, probed ≤ later :=
    fun probed hprobed => ⟨probed, hprobed, le_rfl⟩
  cases h with
  | ended h => exact .inl h
  | kept =>
    rw [probedAfter_self]
    exact .inr (.kept rfl id le_rfl)
  | baselined hphase =>
    have hrunning : ¬ (state.Ended ∨ state.LastProbe) := by simp [Ended, LastProbe, hphase]
    have hopening : state.opening = true := by simp [opening, hphase]
    rw [hphase]
    exact .inr (.kept rfl nofun (rank_le hrunning
      ⟨le_rfl, fun _ => hopening, id, ceilingKnown_mono hsame (by simp [hphase])⟩))
  | opened hphase =>
    have hrunning : ¬ (state.Ended ∨ state.LastProbe) := by simp [Ended, LastProbe, hphase]
    have hopening : state.opening = true := by simp [opening, hphase]
    rw [hphase]
    exact .inr (.restarted rfl (rank_lt hrunning
      ⟨le_rfl, nofun, id, ceilingKnown_mono hsame (.imp_right fun hcount => ⟨hcount.1, .inl rfl⟩)⟩
      (.inr (.inl ⟨hopening, rfl⟩))))
  | climbed hphase =>
    have hrunning : ¬ (state.Ended ∨ state.LastProbe) := by simp [Ended, LastProbe, hphase]
    rw [probedAfter_self]
    exact .inr (.kept rfl id (rank_le hrunning
      ⟨le_rfl, id, id,
        ceilingKnown_mono hsame (.imp_right fun hcount => ⟨hcount.1, .inl hphase⟩)⟩))
  | topped hphase hceiling =>
    have hrunning : ¬ (state.Ended ∨ state.LastProbe) := by simp [Ended, LastProbe, hphase]
    rw [hphase]
    exact .inr (.kept rfl nofun (rank_le hrunning
      ⟨le_rfl, nofun, id,
        ceilingKnown_mono hsame (.imp_right fun hcount => ⟨hcount.1, .inr hceiling⟩)⟩))
  | flattened hphase hflat =>
    have hrunning : ¬ (state.Ended ∨ state.LastProbe) := by simp [Ended, LastProbe, hphase]
    rw [hphase]
    exact .inr (.kept rfl nofun (rank_le hrunning
      ⟨le_rfl, nofun, id, ceilingKnown_mono hsame (.imp_right fun hcount =>
        absurd hcount.1 (hflat (hsound.reached hcount.1.ge)).1)⟩))
  | @fellBack requestMv hphase hwarm hlower =>
    have hrunning : ¬ (state.Ended ∨ state.LastProbe) := by
      rcases hphase with hphase | hphase <;> simp [Ended, LastProbe, hphase]
    have hphase' : probedAfter state.phase .sourceBoundaryRecovery temperature probedAt
        = probedAt := by
      rcases hphase with hphase | hphase <;> rw [hphase] <;> rfl
    have hknown : state.ceilingKnown probedAt = true →
        (state.fellBack temperature requestMv).ceilingKnown probedAt = true := by
      intro hknown
      obtain ⟨probed, hprobed, hcovered, hcount⟩ := ceilingKnown_iff.mp hknown
      have hhot : minBoundaryCoverageCentiC ≤ temperature := hcovered.trans (hwarm probed hprobed)
      have htwice : 2 ≤ (state.fellBack temperature requestMv).rapidFailedProbeCount := by
        show 2 ≤ if minBoundaryCoverageCentiC ≤ temperature then
          min 255 (state.rapidFailedProbeCount + 1) else 0
        rw [if_pos hhot]
        omega
      exact ceilingKnown_iff.mpr ⟨probed, hprobed, hcovered, .inl htwice⟩
    refine .inr ?_
    show Paced _ _ _ _ (probedAfter state.phase .sourceBoundaryRecovery temperature probedAt)
    rw [hphase']
    exact .kept rfl nofun (rank_le hrunning ⟨le_rfl, nofun, id, hknown⟩)
  | recovered hphase hprevious =>
    have hrunning : ¬ (state.Ended ∨ state.LastProbe) := by simp [Ended, LastProbe, hphase]
    rw [hphase]
    exact .inr (.kept rfl nofun (rank_le hrunning
      ⟨le_rfl, nofun, id, ceilingKnown_mono hsame (by simp [hphase])⟩))
  | warmed hphase hwarm =>
    have hrunning : ¬ (state.Ended ∨ state.LastProbe) := by simp [Ended, LastProbe, hphase]
    have hphase' : probedAfter state.phase (state.warmed temperature).phase temperature probedAt
        = probedAt := probedAfter_self state.phase
    rw [hphase']
    exact .inr (.kept rfl id
      (rank_le hrunning ⟨le_rfl, id, id, ceilingKnown_mono hsame id⟩))
  | reprobed hphase hwarm hroom hdue =>
    have hrunning : ¬ (state.Ended ∨ state.LastProbe) := by simp [Ended, LastProbe, hphase]
    have hwarming := warmingLeft_le hwarm hleast
    rw [hphase]
    refine .inr (.restarted rfl (rank_lt hrunning
      ⟨hwarming, nofun, fun _ => rfl, ceilingKnown_mono
        (fun probed hprobed => ⟨temperature, rfl, hwarm probed hprobed⟩)
        (.imp_right fun hcount => ⟨hcount.1, .inl rfl⟩)⟩ ?_))
    cases hdue with
    | hotRetest hhot hcovered hcount =>
      have honce : state.rapidFailedProbeCount = 1 :=
        le_antisymm (Nat.le_of_lt_succ hcount) (hsound.hot.mp hhot)
      refine .inr (.inr (.inr ⟨?_, ceilingKnown_iff.mpr
        ⟨temperature, rfl, hcovered, .inr ⟨honce, .inl rfl⟩⟩⟩))
      by_contra hknown
      obtain ⟨-, -, -, htwice | ⟨-, hsweep | hceiling⟩⟩ :=
        ceilingKnown_iff.mp (Bool.eq_true_of_not_eq_false hknown)
      · omega
      · exact absurd (hphase.symm.trans hsweep) (by decide)
      · exact absurd hroom (not_lt.mpr hceiling)
    | firstProbe hfirst => exact .inr (.inr (.inl ⟨hfirst, rfl⟩))
    | hotHold hhold =>
      exact .inl (warmingLeft_lt (hsound.confirmed (by simp [hphase])) hhold hleast hmost)
    | retested hreached hfailed hle =>
      -- the failed request lies above the one that the warm-up holds
      rcases hsound.below hreached (.inl hphase) with hceiling | hbelow
      · exact absurd hroom (not_lt.mpr hceiling)
      · exact absurd (hbelow _ hfailed) (not_lt.mpr hle)
  | @terminal requestMv requestMa hphase hwarm hmost' hdue =>
    have hrunning : ¬ (state.Ended ∨ state.LastProbe) := by simp [Ended, LastProbe, hphase]
    rw [hphase]
    refine .inr (.restarted rfl ?_)
    cases hdue with
    | hotBoundary hhot hcount =>
      have hlast : ((state.warmed temperature).terminal nowMs requestMv requestMa).LastProbe :=
        ⟨rfl, hhot, hcount⟩
      rw [rank_of_lastProbe hlast]
      exact rank_pos hrunning
    | ceiling hceiling hhold =>
      have hlower := warmingLeft_lt (hsound.confirmed (by simp [hphase])) hhold hleast hmost
      exact rank_lt hrunning
        ⟨hlower.le, nofun, id, ceilingKnown_mono
          (fun probed hprobed => ⟨temperature, rfl, hwarm probed hprobed⟩)
          (.imp_right fun hcount => ⟨hcount.1, .inr hmost'⟩)⟩ (.inl hlower)
  | left hphase hlast hwarm =>
    have hrunning : ¬ (state.Ended ∨ state.LastProbe) := by
      rintro (hended | hlast')
      · rcases hended with h | h <;> exact absurd (hphase.symm.trans h) (by decide)
      · exact hlast hlast'
    rw [hphase]
    exact .inr (.kept rfl nofun (rank_le hrunning
      ⟨le_rfl, nofun, fun _ => rfl,
        ceilingKnown_mono hsame (.imp_right fun hcount => ⟨hcount.1, .inr le_rfl⟩)⟩))

end ProbeState

/-! ## Runs -/

/-- A scan with the temperature at which its last probe began, the terminal probes it has entered
and the time of its last sample. -/
structure ScanCourse where
  scan : SupplyScan
  probedAt : Option ℤ := none
  entries : ℕ := 0
  clockMs : ℕ := 0

namespace ScanCourse

open ProbeState SupplyScan

variable {course : ScanCourse} {input : ScanInput}

def observe (course : ScanCourse) (input : ScanInput) : ScanCourse where
  scan := course.scan.update input
  probedAt := probedAfter course.scan.phase (course.scan.update input).phase
    (course.scan.steadied input).temperatureCentiC course.probedAt
  entries :=
    if course.scan.phase ≠ .terminalProbe ∧ (course.scan.update input).phase = .terminalProbe then
      course.entries + 1
    else course.entries
  clockMs := input.nowMs.toNat

/-- The sample wastes no probe. -/
def Observes (course : ScanCourse) (input : ScanInput) (after : ScanCourse) : Prop :=
  course.scan.MakesProgress course.probedAt input ∧ after = course.observe input

/-- One stage more than there are restarts. -/
def scanLimitMs : ℕ := (probeLimit + 1) * stageTimeoutMs

/-- The terminal probes are bounded, and so is the time until the scan has ended. -/
structure ProbesEnd (probes lastMs : ℕ) (course : ScanCourse) : Prop where
  entries : course.entries ≤ probes
  ended : lastMs < course.clockMs → course.scan.phase = .complete ∨ course.scan.phase = .failed

/-- The time that has passed and the time that is left make up the limit. -/
structure Running (course : ScanCourse) : Prop where
  sound : course.scan.probeState.Sound course.probedAt
  started : course.scan.stageStartedMs +
      stageTimeoutMs * course.scan.probeState.rank course.probedAt ≤ stageTimeoutMs * probeLimit
  clock : course.clockMs ≤ course.scan.stageStartedMs + stageTimeoutMs

structure Budgeted (course : ScanCourse) : Prop where
  entries : course.entries + course.scan.probeState.rank course.probedAt ≤ probeLimit
  running : course.scan.probeState.Ended ∨ course.Running

theorem clampI16_bounds (value : ℤ) : -32768 ≤ clampI16 value ∧ clampI16 value ≤ 32767 := by
  unfold clampI16
  omega

theorem ended_of_timedOut (hrapid : course.scan.probeState.Rapid)
    (hprogress : course.scan.MakesProgress course.probedAt input)
    (htimeout : course.scan.stageTimedOut input = true) :
    (course.scan.update input).probeState.Ended := by
  have hthreeAmps : ¬ course.scan.probeState.Ended → 3000 ≤ course.scan.requestMa := by
    intro hrunning
    by_cases hphase : course.scan.phase = .terminalProbe
    · by_contra hbelow
      have hanswered := hprogress.answered hphase (not_le.mp hbelow)
      exact absurd (hanswered.symm.trans htimeout) (by decide)
    · exact (hrapid.current hrunning hphase).ge
  unfold update
  split
  case isTrue hended => exact hended
  case isFalse hrunning =>
    dsimp only
    unfold respond
    split
    · exact .inr rfl
    split
    · exact .inr rfl
    split
    · exact .inl rfl
    split
    case isTrue hprobing =>
      have hnormal : course.scan.normalProbe = true := (Bool.and_eq_true_iff.mp hprobing).1
      exact absurd (hnormal.symm.trans hrapid.probe) (by decide)
    split
    case isTrue =>
      unfold handleStageTimeout
      rw [if_pos (hthreeAmps hrunning)]
      exact .inr rfl
    case isFalse hclock =>
      have hclock' : ¬ course.scan.stageTimedOut input = true := hclock
      exact absurd htimeout hclock'

theorem update_of_ended (input : ScanInput) (h : course.scan.probeState.Ended) :
    course.scan.update input = course.scan := by
  have hended : course.scan.phase = .complete ∨ course.scan.phase = .failed := h
  unfold update
  rw [if_pos hended]

theorem not_terminalProbe_of_ended {scan : SupplyScan} (h : scan.probeState.Ended) :
    scan.phase ≠ .terminalProbe := by
  have hended : scan.phase = .complete ∨ scan.phase = .failed := h
  rcases hended with hphase | hphase <;> rw [hphase] <;> decide

theorem entries_observe_of_not_entered
    (h : (course.scan.update input).phase = .terminalProbe → course.scan.phase = .terminalProbe) :
    (course.observe input).entries = course.entries :=
  if_neg fun hentered => hentered.1 (h hentered.2)

theorem entries_observe_le (course : ScanCourse) (input : ScanInput) :
    (course.observe input).entries ≤ course.entries + 1 := by
  unfold observe
  dsimp only
  split <;> omega

theorem Budgeted.observe_of_ended (h : course.Budgeted)
    (hended : (course.scan.update input).probeState.Ended) : (course.observe input).Budgeted := by
  refine ⟨?_, .inl hended⟩
  have hentries : (course.observe input).entries = course.entries :=
    entries_observe_of_not_entered fun hphase =>
      absurd hphase (not_terminalProbe_of_ended hended)
  have hrank : (course.scan.update input).probeState.rank (course.observe input).probedAt = 0 :=
    rank_of_ended hended
  have hbefore := h.entries
  show (course.observe input).entries +
    (course.scan.update input).probeState.rank (course.observe input).probedAt ≤ probeLimit
  omega

theorem Budgeted.observe (h : course.Budgeted)
    (hprogress : course.scan.MakesProgress course.probedAt input) :
    (course.observe input).Budgeted := by
  rcases h.running with hended | hrunning
  · have hsame := update_of_ended input hended
    exact h.observe_of_ended (hsame.symm ▸ hended)
  have hrapid := hrunning.sound.toRapid
  have htakes := takes_update hrapid hprogress
  have hrange := clampI16_bounds (course.scan.filteredTemperature input.temperatureCentiC)
  rcases htakes.paced hrunning.sound hrange.1 hrange.2 with hended | hpaced
  · exact h.observe_of_ended hended
  rcases htakes.sound hrunning.sound with hended | hsound
  · exact h.observe_of_ended hended
  by_cases htimeout : course.scan.stageTimedOut input = true
  · exact h.observe_of_ended (ended_of_timedOut hrapid hprogress htimeout)
  have hclock : input.nowMs.toNat ≤ course.scan.stageStartedMs + stageTimeoutMs := by
    simp only [stageTimedOut, decide_eq_true_eq] at htimeout
    omega
  have hentries := h.entries
  have hstarted := hrunning.started
  have hstage : stageTimeoutMs = 900000 := rfl
  cases hpaced with
  | kept hsame hentered hrank =>
    have hsame' : (course.scan.update input).stageStartedMs = course.scan.stageStartedMs := hsame
    have hkept := entries_observe_of_not_entered hentered
    have hle : (course.observe input).scan.probeState.rank (course.observe input).probedAt ≤
        course.scan.probeState.rank course.probedAt := hrank
    refine ⟨by omega, .inr ⟨hsound, ?_, ?_⟩⟩
    · show (course.scan.update input).stageStartedMs + _ ≤ _
      rw [hstage] at hstarted ⊢
      omega
    · show input.nowMs.toNat ≤ (course.scan.update input).stageStartedMs + stageTimeoutMs
      omega
  | restarted hnow hrank =>
    have hnow' : (course.scan.update input).stageStartedMs = input.nowMs.toNat := hnow
    have hentered := entries_observe_le course input
    have hlt : (course.observe input).scan.probeState.rank (course.observe input).probedAt <
        course.scan.probeState.rank course.probedAt := hrank
    refine ⟨by omega, .inr ⟨hsound, ?_, ?_⟩⟩
    · show (course.scan.update input).stageStartedMs + _ ≤ _
      rw [hstage] at hstarted hclock ⊢
      omega
    · show input.nowMs.toNat ≤ (course.scan.update input).stageStartedMs + stageTimeoutMs
      omega

theorem budgeted_newRapid {boundary : SupplyBoundary} {start : SupplyScan}
    (hnew : newRapid boundary = some start) : Budgeted { scan := start } := by
  unfold newRapid newWithMode at hnew
  split at hnew
  · cases hnew
  · obtain rfl := Option.some.inj hnew
    have hrank : ∀ state : ProbeState, 0 + state.rank none ≤ probeLimit := fun state =>
      (Nat.zero_add _).trans_le state.rank_le_probeLimit
    refine ⟨hrank _, .inr
      { sound := ?_
        started := (Nat.zero_add _).trans_le (Nat.mul_le_mul_left _ (rank_le_probeLimit _))
        clock := Nat.zero_le _ }⟩
    exact
      { mode := rfl
        probe := rfl
        current := fun _ _ => rfl
        phase := rfl
        confirmed := fun _ => nofun
        hot := ⟨nofun, fun hcount => absurd hcount (Nat.not_succ_le_zero 0)⟩
        reached := fun hcount => absurd hcount (Nat.not_succ_le_zero 0)
        below := nofun }

theorem Budgeted.probesEnd (h : course.Budgeted) : course.ProbesEnd probeLimit scanLimitMs := by
  have hentries := h.entries
  refine ⟨by omega, ?_⟩
  intro hclock
  rcases h.running with hended | hrunning
  · exact hended
  · have hstarted := hrunning.started
    have hstage := hrunning.clock
    have hlimit : scanLimitMs = stageTimeoutMs * probeLimit + stageTimeoutMs := rfl
    omega

/-- Every rapid scan whose probes are not wasted ends, whatever its source. -/
theorem probesEnd_of_progress {boundary : SupplyBoundary} {start : SupplyScan}
    {inputs : List ScanInput} (hnew : newRapid boundary = some start)
    (hrun : Reaches Observes { scan := start } inputs course) :
    course.ProbesEnd probeLimit scanLimitMs := by
  have hbudgeted : course.Budgeted := by
    refine hrun.invariant (budgeted_newRapid hnew) ?_
    rintro before input after hbefore ⟨hprogress, rfl⟩
    exact hbefore.observe hprogress
  exact hbudgeted.probesEnd

/-! ### A scan that ends with its first terminal probe -/

/-- The sample shows a warming plate, and its request tracks. -/
def steady (course : ScanCourse) (input : ScanInput) : Bool :=
  (course.probedAt.all fun probed => probed ≤ (course.scan.steadied input).temperatureCentiC) &&
    (course.scan.phase != .terminalProbe || course.scan.voltageTracksRequest input) &&
    !course.scan.rapidBoundaryReached && !course.scan.stageTimedOut input

theorem observes_of_steady (h : course.steady input = true) :
    course.Observes input (course.observe input) := by
  simp only [steady, Bool.and_eq_true, Bool.or_eq_true, bne_iff_ne, ne_eq, Bool.not_eq_true',
    Option.all_eq_true, decide_eq_true_eq] at h
  obtain ⟨⟨⟨hwarm, htracks⟩, hunreached⟩, hclock⟩ := h
  refine ⟨?_, rfl⟩
  exact
    { warm := fun _ _ => hwarm
      tracks := fun _ hphase _ _ => htracks.resolve_left (not_not.mpr hphase)
      flat := fun _ _ _ _ hreached => absurd (hunreached.symm.trans hreached) (by decide)
      answered := fun _ _ => hclock }

def observeSteady (course : ScanCourse) (input : ScanInput) : Option ScanCourse :=
  if course.steady input then some (course.observe input) else none

theorem observes_of_observeSteady {after : ScanCourse}
    (h : course.observeSteady input = some after) : course.Observes input after := by
  unfold observeSteady at h
  split at h
  case isTrue hsteady =>
    obtain rfl := Option.some.inj h
    exact observes_of_steady hsteady
  case isFalse => cases h

/-- The narrow source, whose terminal probe tracks. -/
theorem probesEnd_of_progress_narrow :
    ∃ course : ScanCourse, samplesToEnd.foldlM observeSteady { scan := narrowStart } = some course ∧
      course.ProbesEnd probeLimit scanLimitMs := by
  obtain ⟨course, hcourse⟩ := Option.isSome_iff_exists.mp
    (by decide +kernel : (samplesToEnd.foldlM observeSteady { scan := narrowStart }).isSome = true)
  have hrun := (Reaches.of_foldlM hcourse).mono fun _ _ _ => observes_of_observeSteady
  have hnew : newRapid narrowSource = some narrowStart := rfl
  exact ⟨course, hcourse, probesEnd_of_progress hnew hrun⟩

end ScanCourse

end FluxPurr.Supply
