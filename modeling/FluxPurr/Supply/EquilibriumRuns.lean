import Mathlib.Data.List.Induction
import FluxPurr.Supply.Scan

/-!
# What the equilibrium window has seen

A window remembers the time of its first observation and the extremes since then.  So a
window that `Spans` a list of observations tells whether the next one still lies within one
degree of all of them (`Spans.observe`), and the answer is `true` exactly if an observation
that opened a window is ten seconds old and the band has held since (`reached_iff`).
-/

namespace FluxPurr.Supply.EquilibriumWindow

structure Observation where
  nowMs : ℕ
  temperatureCentiC : ℤ

/-- The window after the observations, from a reset one on. -/
def after (observations : List Observation) : EquilibriumWindow :=
  observations.foldl
    (fun window observation => (window.observe observation.nowMs observation.temperatureCentiC).2)
    {}

/-- The answer to an observation that follows others. -/
def reached (past : List Observation) (observation : Observation) : Bool :=
  ((after past).observe observation.nowMs observation.temperatureCentiC).1

/-- The temperatures lie within a band of one degree. -/
def WithinBand (observations : List Observation) : Prop :=
  ∀ hot ∈ observations, ∀ cold ∈ observations, hot.temperatureCentiC - cold.temperatureCentiC ≤ 100

/-- The observation starts a window: there is none, or it leaves the band of the present one. -/
def Opens (past : List Observation) (observation : Observation) : Prop :=
  (after past).startedMs = none ∨
    100 < max (after past).maxCentiC observation.temperatureCentiC -
      min (after past).minCentiC observation.temperatureCentiC

variable {window : EquilibriumWindow} {front rest past observations : List Observation}
  {first observation : Observation}

theorem after_concat : after (past ++ [observation]) =
    ((after past).observe observation.nowMs observation.temperatureCentiC).2 :=
  List.foldl_concat _ _ _ _

theorem observe_of_opens (h : Opens past observation) :
    (after past).observe observation.nowMs observation.temperatureCentiC =
      (false, opened observation.nowMs observation.temperatureCentiC) := by
  unfold observe
  cases hstarted : (after past).startedMs with
  | none => rfl
  | some startedMs =>
    have hleaves := h.resolve_left (by rw [hstarted]; nofun)
    exact if_pos hleaves

/-! ## A window and its observations -/

/-- The window was started at this time and has the extremes of the observations. -/
structure Spans (window : EquilibriumWindow) (startedMs : ℕ) (observations : List Observation) :
    Prop where
  started : window.startedMs = some startedMs
  within : ∀ observation ∈ observations, window.minCentiC ≤ observation.temperatureCentiC ∧
    observation.temperatureCentiC ≤ window.maxCentiC
  coldest : ∃ observation ∈ observations, observation.temperatureCentiC = window.minCentiC
  hottest : ∃ observation ∈ observations, observation.temperatureCentiC = window.maxCentiC

theorem spans_opened : Spans (opened first.nowMs first.temperatureCentiC) first.nowMs [first] where
  started := rfl
  within := by
    intro observation hmem
    obtain rfl := List.mem_singleton.mp hmem
    exact ⟨le_refl _, le_refl _⟩
  coldest := ⟨first, List.mem_singleton_self first, rfl⟩
  hottest := ⟨first, List.mem_singleton_self first, rfl⟩

variable (observation) in
theorem Spans.extended {startedMs : ℕ} (h : Spans window startedMs observations) :
    Spans { window with
      minCentiC := min window.minCentiC observation.temperatureCentiC
      maxCentiC := max window.maxCentiC observation.temperatureCentiC }
      startedMs (observations ++ [observation]) where
  started := h.started
  within := by
    intro other hmem
    rcases List.mem_append.mp hmem with hold | hnew
    · obtain ⟨hmin, hmax⟩ := h.within other hold
      exact ⟨min_le_of_left_le hmin, le_max_of_le_left hmax⟩
    · obtain rfl := List.mem_singleton.mp hnew
      exact ⟨min_le_right _ _, le_max_right _ _⟩
  coldest := by
    rcases min_choice window.minCentiC observation.temperatureCentiC with hmin | hmin
    · obtain ⟨other, hmem, hcold⟩ := h.coldest
      exact ⟨other, List.mem_append_left _ hmem, hcold.trans hmin.symm⟩
    · exact ⟨observation, by simp, hmin.symm⟩
  hottest := by
    rcases max_choice window.maxCentiC observation.temperatureCentiC with hmax | hmax
    · obtain ⟨other, hmem, hhot⟩ := h.hottest
      exact ⟨other, List.mem_append_left _ hmem, hhot.trans hmax.symm⟩
    · exact ⟨observation, by simp, hmax.symm⟩

/-- The extremes tell whether all temperatures lie within the band. -/
theorem Spans.withinBand_iff {startedMs : ℕ} (h : Spans window startedMs observations) :
    WithinBand observations ↔ window.maxCentiC - window.minCentiC ≤ 100 := by
  constructor
  · intro hband
    obtain ⟨hot, hhot, hmax⟩ := h.hottest
    obtain ⟨cold, hcold, hmin⟩ := h.coldest
    rw [← hmax, ← hmin]
    exact hband hot hhot cold hcold
  · intro hextremes hot hhot cold hcold
    have hmax := (h.within hot hhot).2
    have hmin := (h.within cold hcold).1
    omega

variable (observation) in
/-- The window goes on if the band holds, and otherwise it starts again. -/
theorem Spans.observe {startedMs : ℕ} (h : Spans window startedMs observations) :
    (WithinBand (observations ++ [observation]) ∧
      (window.observe observation.nowMs observation.temperatureCentiC).1 =
        decide (10000 ≤ observation.nowMs - startedMs) ∧
      Spans (window.observe observation.nowMs observation.temperatureCentiC).2 startedMs
        (observations ++ [observation])) ∨
    (¬ WithinBand (observations ++ [observation]) ∧
      100 < max window.maxCentiC observation.temperatureCentiC -
        min window.minCentiC observation.temperatureCentiC) := by
  have hextended := h.extended observation
  have hband := hextended.withinBand_iff
  by_cases hleaves : 100 < max window.maxCentiC observation.temperatureCentiC -
      min window.minCentiC observation.temperatureCentiC
  · exact .inr ⟨fun hwithin => absurd (hband.mp hwithin) (not_le.mpr hleaves), hleaves⟩
  · have hobserve : window.observe observation.nowMs observation.temperatureCentiC =
        (decide (10000 ≤ observation.nowMs - startedMs),
          { window with
            minCentiC := min window.minCentiC observation.temperatureCentiC
            maxCentiC := max window.maxCentiC observation.temperatureCentiC }) := by
      unfold EquilibriumWindow.observe
      rw [h.started]
      exact if_neg hleaves
    rw [hobserve]
    exact .inl ⟨hband.mpr (not_lt.mp hleaves), rfl, hextended⟩

/-! ## Runs -/

/-- From the observation that opened it on, a window spans what stays within the band. -/
theorem spans_after (hopens : Opens front first) (hband : WithinBand (first :: rest)) :
    Spans (after (front ++ first :: rest)) first.nowMs (first :: rest) := by
  induction rest using List.reverseRecOn with
  | nil =>
    rw [after_concat, observe_of_opens hopens]
    exact spans_opened
  | append_singleton rest observation ih =>
    have hbefore : WithinBand (first :: rest) := fun hot hhot cold hcold =>
      hband hot (List.mem_append_left [observation] hhot) cold
        (List.mem_append_left [observation] hcold)
    rw [← List.cons_append, ← List.append_assoc, after_concat]
    rcases (ih hbefore).observe observation with ⟨-, -, hspans⟩ | ⟨hnot, -⟩
    · exact hspans
    · exact absurd hband hnot

/-- The present window was opened by one of the observations, and the band has held since. -/
theorem exists_opens (hpast : past ≠ []) :
    ∃ front first rest, past = front ++ first :: rest ∧ Opens front first ∧
      WithinBand (first :: rest) := by
  induction past using List.reverseRecOn with
  | nil => exact absurd rfl hpast
  | append_singleton past observation ih =>
    by_cases hopens : Opens past observation
    · refine ⟨past, observation, [], rfl, hopens, ?_⟩
      exact (spans_opened.withinBand_iff).mpr (by simp [opened])
    · have hnonempty : past ≠ [] := by
        rintro rfl
        exact hopens (.inl rfl)
      obtain ⟨front, first, rest, rfl, hfirst, hband⟩ := ih hnonempty
      refine ⟨front, first, rest ++ [observation], by simp, hfirst, ?_⟩
      rcases (spans_after hfirst hband).observe observation with
        ⟨hwithin, -⟩ | ⟨-, hleaves⟩
      · exact hwithin
      · exact absurd (.inr hleaves) hopens

/-- The answer is `true` exactly if a window was opened ten seconds ago and the band has held. -/
theorem reached_iff : reached past observation = true ↔
    ∃ front first rest, past = front ++ first :: rest ∧ Opens front first ∧
      WithinBand (first :: (rest ++ [observation])) ∧
      10000 ≤ observation.nowMs - first.nowMs := by
  constructor
  · intro hreached
    have hpast : past ≠ [] := by
      rintro rfl
      cases hreached
    obtain ⟨front, first, rest, rfl, hopens, hband⟩ := exists_opens hpast
    refine ⟨front, first, rest, rfl, hopens, ?_⟩
    have hspans := spans_after hopens hband
    rcases hspans.observe observation with
      ⟨hwithin, hanswer, -⟩ | ⟨-, hleaves⟩
    · exact ⟨hwithin, of_decide_eq_true (hanswer.symm.trans hreached)⟩
    · rw [reached, observe_of_opens (.inr hleaves)] at hreached
      cases hreached
  · rintro ⟨front, first, rest, rfl, hopens, hband, hold⟩
    have hbefore : WithinBand (first :: rest) := fun hot hhot cold hcold =>
      hband hot (List.mem_append_left [observation] hhot) cold
        (List.mem_append_left [observation] hcold)
    rcases (spans_after hopens hbefore).observe observation with
      ⟨-, hanswer, -⟩ | ⟨hnot, -⟩
    · exact hanswer.trans (decide_eq_true hold)
    · exact absurd hband hnot

/-- An answer `true` has ten seconds within the band behind it, and ten seconds within the band
of a window give the answer `true`. -/
theorem equilibrium_sound_and_rearmed :
    (reached past observation = true →
      ∃ front first rest, past = front ++ first :: rest ∧
        10000 ≤ observation.nowMs - first.nowMs ∧
        WithinBand (first :: (rest ++ [observation]))) ∧
    ∀ front first rest, past = front ++ first :: rest → Opens front first →
      10000 ≤ observation.nowMs - first.nowMs →
      WithinBand (first :: (rest ++ [observation])) → reached past observation = true := by
  constructor
  · intro hreached
    obtain ⟨front, first, rest, hpast, -, hband, hold⟩ := reached_iff.mp hreached
    exact ⟨front, first, rest, hpast, hold, hband⟩
  · intro front first rest hpast hopens hold hband
    exact reached_iff.mpr ⟨front, first, rest, hpast, hopens, hband, hold⟩

end FluxPurr.Supply.EquilibriumWindow
