import FluxPurr.Runs.Reaches
import Mathlib.Data.Int.Basic
import Mathlib.Data.List.Basic

/-!
# Pauses of the qualification

While the PPS voltage changes, the converter rejects samples, and the qualification of a
measurement may wait for it.  `observe` calls such a sample a pause when it lies within a second
of an accepted sample and of a change of the voltage.

A pause is bounded by the last accepted sample before it (`PauseBounded`).  An accepted sample
that comes later than that starts anew, provided it is what ends the pause
(`pauseBounded_observeAll`).  A rejected sample ends a pause too, and what is accepted after it is
fresh (`not_lateResume_after_rejection`).
-/

namespace FluxPurr.Thermal

open FluxPurr.Runs

structure QualificationObservation where
  elapsedMs : ℕ
  requestedMv : Option ℕ
  confirmedContractMv : Option ℕ
  valid : Bool
  accepted : Bool
  temperatureCentiC : ℤ
  rawTemperatureCentiC : Option ℤ
  targetC : ℤ
deriving DecidableEq, Repr

inductive QualificationMeasurement where
  | fresh
  | freshAfterGap
  | ppsPause
  | rejected
deriving DecidableEq, Repr

structure QualificationContinuity where
  lastRequestMv : Option ℕ := none
  lastConfirmedContractMv : Option ℕ := none
  lastAcceptedAtMs : Option ℕ := none
  ppsEdgeAtMs : Option ℕ := none
deriving DecidableEq, Repr

abbrev qualificationPauseMs : ℕ := 1000

namespace QualificationObservation

def isAccepted (sample : QualificationObservation) : Bool := sample.valid && sample.accepted

def inBand (sample : QualificationObservation) (temperature : ℤ) : Bool :=
  (temperature - sample.targetC * 100).natAbs ≤ 150

/-- No earlier than the time and at most a second after it. -/
def recent (sample : QualificationObservation) (timeMs : ℕ) : Bool :=
  timeMs ≤ sample.elapsedMs ∧ sample.elapsedMs - timeMs ≤ qualificationPauseMs

/-- The temperature is near the target, and so is the one that was measured. -/
def isSteady (sample : QualificationObservation) : Bool :=
  sample.inBand sample.temperatureCentiC ∧
    sample.rawTemperatureCentiC.any fun raw =>
      sample.inBand raw ∧ (raw - sample.temperatureCentiC).natAbs ≤ 50

/-- The request is another one than before. -/
def requestEdge (sample : QualificationObservation) (lastRequestMv : Option ℕ) : Bool :=
  lastRequestMv.any fun last => sample.requestedMv.any fun requested => last ≠ requested

/-- The contract is another one than before, and the one that is requested. -/
def appliedEdge (sample : QualificationObservation) (lastConfirmedContractMv : Option ℕ) : Bool :=
  lastConfirmedContractMv.any fun last =>
    sample.confirmedContractMv.any fun confirmed =>
      last ≠ confirmed ∧ some confirmed = sample.requestedMv

end QualificationObservation

namespace QualificationContinuity

def new : QualificationContinuity := {}

/-- The edges of a sample, whatever becomes of it. -/
def noteEdges (continuity : QualificationContinuity) (sample : QualificationObservation) :
    QualificationContinuity where
  lastRequestMv := sample.requestedMv
  lastConfirmedContractMv := sample.confirmedContractMv.or continuity.lastConfirmedContractMv
  lastAcceptedAtMs := continuity.lastAcceptedAtMs
  ppsEdgeAtMs :=
    if sample.requestEdge continuity.lastRequestMv ∨
        sample.appliedEdge continuity.lastConfirmedContractMv then
      some sample.elapsedMs
    else continuity.ppsEdgeAtMs

def accept (continuity : QualificationContinuity) (sample : QualificationObservation) :
    QualificationContinuity × QualificationMeasurement :=
  let pauseExpired := continuity.ppsEdgeAtMs.isSome &&
    continuity.lastAcceptedAtMs.any fun last => qualificationPauseMs < sample.elapsedMs - last
  -- the edge may precede the pause by one tick, with fresh samples in between
  let ppsEdgeAtMs :=
    if (continuity.lastAcceptedAtMs.any fun last => last < sample.elapsedMs) ∧
        continuity.ppsEdgeAtMs ≠ some sample.elapsedMs then none
    else continuity.ppsEdgeAtMs
  ({ continuity with ppsEdgeAtMs := ppsEdgeAtMs, lastAcceptedAtMs := some sample.elapsedMs },
    if pauseExpired then .freshAfterGap else .fresh)

def observe (continuity : QualificationContinuity) (sample : QualificationObservation) :
    QualificationContinuity × QualificationMeasurement :=
  let continuity := continuity.noteEdges sample
  if sample.valid ∧ sample.accepted then continuity.accept sample
  else if sample.valid ∧ continuity.ppsEdgeAtMs.any sample.recent ∧
      continuity.lastAcceptedAtMs.any sample.recent ∧ sample.isSteady then
    (continuity, .ppsPause)
  else ({ continuity with ppsEdgeAtMs := none, lastAcceptedAtMs := none }, .rejected)

end QualificationContinuity

open QualificationContinuity

/-! ## Runs -/

/-- The samples with their results, in order. -/
abbrev QualificationTrace := List (QualificationObservation × QualificationMeasurement)

def Observes (continuity : QualificationContinuity)
    (entry : QualificationObservation × QualificationMeasurement)
    (after : QualificationContinuity) : Prop :=
  continuity.observe entry.1 = (after, entry.2)

/-- The samples one after the other, with their results. -/
def observeAll (samples : List QualificationObservation) :
    QualificationContinuity × QualificationTrace :=
  samples.foldl
    (fun run sample =>
      ((run.1.observe sample).1, run.2 ++ [(sample, (run.1.observe sample).2)]))
    (.new, [])

/-- The request of the sample before. -/
def lastRequest (trace : QualificationTrace) : Option ℕ :=
  trace.getLast?.bind fun entry => entry.1.requestedMv

/-- The last contract that was confirmed. -/
def lastConfirmed (trace : QualificationTrace) : Option ℕ :=
  (trace.filterMap fun entry => entry.1.confirmedContractMv).getLast?

/-- The sample shows another request or another confirmed contract than those before it. -/
def ChangesPps (before : QualificationTrace) (sample : QualificationObservation) : Prop :=
  sample.requestEdge (lastRequest before) = true ∨ sample.appliedEdge (lastConfirmed before) = true

/-- The sample is the last accepted one, and only pauses come after it. -/
def PausedSince (accepted : QualificationObservation) (trace : QualificationTrace) : Prop :=
  ∃ before measurement pause, trace = before ++ (accepted, measurement) :: pause ∧
    accepted.isAccepted = true ∧ ∀ entry ∈ pause, entry.2 = .ppsPause

/-- A pause never reaches further than a second from the last accepted sample. -/
structure PauseBounded (trace : QualificationTrace) : Prop where
  accepted : ∀ before sample after, trace = before ++ (sample, .ppsPause) :: after →
    ∃ accepted, PausedSince accepted before ∧ accepted.elapsedMs ≤ sample.elapsedMs ∧
      sample.elapsedMs ≤ accepted.elapsedMs + qualificationPauseMs
  changed : ∀ before sample after, trace = before ++ (sample, .ppsPause) :: after →
    ∃ front change measurement rest,
      before ++ [(sample, .ppsPause)] = front ++ (change, measurement) :: rest ∧
        ChangesPps front change ∧ change.elapsedMs ≤ sample.elapsedMs ∧
          sample.elapsedMs ≤ change.elapsedMs + qualificationPauseMs
  within : ∀ before accepted measurement pause after,
    trace = before ++ (accepted, measurement) :: (pause ++ after) → accepted.isAccepted = true →
      (∀ entry ∈ pause, entry.2 = .ppsPause) →
        ∀ entry ∈ pause, entry.1.elapsedMs ≤ accepted.elapsedMs + qualificationPauseMs
  resumes : ∀ before accepted measurement pause sample result after,
    trace = before ++ (accepted, measurement) :: (pause ++ (sample, result) :: after) →
      accepted.isAccepted = true → pause ≠ [] → (∀ entry ∈ pause, entry.2 = .ppsPause) →
        sample.isAccepted = true →
          accepted.elapsedMs + qualificationPauseMs < sample.elapsedMs → result = .freshAfterGap

/-! ## One sample -/

variable {continuity after : QualificationContinuity} {sample accepted : QualificationObservation}
  {trace : QualificationTrace} {entry : QualificationObservation × QualificationMeasurement}

/-- A sample is accepted, it pauses, or it is rejected. -/
inductive ObserveCase (continuity : QualificationContinuity) (sample : QualificationObservation) :
    QualificationContinuity → QualificationMeasurement → Prop
  | accepted (haccepted : sample.isAccepted = true) :
      ObserveCase continuity sample ((continuity.noteEdges sample).accept sample).1
        ((continuity.noteEdges sample).accept sample).2
  | pause (hnot : sample.isAccepted = false)
      (hedge : (continuity.noteEdges sample).ppsEdgeAtMs.any sample.recent = true)
      (hrecent : continuity.lastAcceptedAtMs.any sample.recent = true) :
      ObserveCase continuity sample (continuity.noteEdges sample) .ppsPause
  | rejected (hnot : sample.isAccepted = false) :
      ObserveCase continuity sample
        { continuity.noteEdges sample with ppsEdgeAtMs := none, lastAcceptedAtMs := none } .rejected

theorem observe_case (continuity : QualificationContinuity) (sample : QualificationObservation) :
    ObserveCase continuity sample (continuity.observe sample).1 (continuity.observe sample).2 := by
  unfold observe
  dsimp only
  split_ifs with haccepted hpause
  · exact .accepted ((Bool.and_eq_true _ _).mpr haccepted)
  · have hnot : sample.isAccepted = false :=
      eq_false_of_ne_true fun h => haccepted ((Bool.and_eq_true _ _).mp h)
    exact .pause hnot hpause.2.1 hpause.2.2.1
  · exact .rejected (eq_false_of_ne_true fun h => haccepted ((Bool.and_eq_true _ _).mp h))

theorem observe_case_of_observes (h : Observes continuity entry after) :
    ObserveCase continuity entry.1 after entry.2 := by
  have hcase := observe_case continuity entry.1
  rw [h] at hcase
  exact hcase

theorem accept_ne_ppsPause (continuity : QualificationContinuity)
    (sample : QualificationObservation) : (continuity.accept sample).2 ≠ .ppsPause := by
  unfold accept
  dsimp only
  split_ifs <;> nofun

theorem reaches_observeAll (samples : List QualificationObservation) :
    Reaches Observes .new (observeAll samples).2 (observeAll samples).1 := by
  induction samples using List.reverseRecOn with
  | nil => exact .refl
  | append_singleton samples sample ih =>
    unfold observeAll at ih ⊢
    rw [List.foldl_append]
    exact .step ih rfl

/-! ## What is remembered -/

theorem lastRequest_concat (trace : QualificationTrace)
    (entry : QualificationObservation × QualificationMeasurement) :
    lastRequest (trace ++ [entry]) = entry.1.requestedMv := by
  unfold lastRequest
  rw [List.getLast?_concat]
  rfl

theorem lastConfirmed_concat :
    lastConfirmed (trace ++ [entry]) = entry.1.confirmedContractMv.or (lastConfirmed trace) := by
  unfold lastConfirmed
  rw [List.filterMap_append, List.getLast?_append]
  cases hconfirmed : entry.1.confirmedContractMv with
  | none | some confirmed =>
    simp only [List.filterMap_cons, hconfirmed]
    rfl

/-- One more sample: it is accepted, or it pauses like those before it. -/
theorem pausedSince_concat :
    PausedSince accepted (trace ++ [entry]) ↔
      (entry.1 = accepted ∧ accepted.isAccepted = true) ∨
        (entry.2 = .ppsPause ∧ PausedSince accepted trace) := by
  constructor
  · rintro ⟨before, measurement, pause, htrace, haccepted, hpause⟩
    rcases List.eq_nil_or_concat' pause with rfl | ⟨pause, last, rfl⟩
    · obtain ⟨-, hlast⟩ := List.append_inj' htrace rfl
      exact .inl ⟨congrArg Prod.fst (List.singleton_inj.mp hlast), haccepted⟩
    · rw [← List.cons_append, ← List.append_assoc] at htrace
      obtain ⟨rfl, hlast⟩ := List.append_inj' htrace rfl
      obtain rfl := List.singleton_inj.mp hlast
      refine .inr ⟨hpause _ (List.mem_append_right _ List.mem_cons_self), before, measurement,
        pause, rfl, haccepted, fun entry hmem => hpause entry (List.mem_append_left _ hmem)⟩
  · rintro (⟨rfl, haccepted⟩ | ⟨hentry, before, measurement, pause, rfl, haccepted, hpause⟩)
    · exact ⟨trace, entry.2, [], rfl, haccepted, fun _ h => absurd h List.not_mem_nil⟩
    · refine ⟨before, measurement, pause ++ [entry], ?_, haccepted, ?_⟩
      · rw [List.append_assoc, List.cons_append]
      · intro other hmem
        rcases List.mem_append.mp hmem with hold | hnew
        · exact hpause other hold
        · exact (List.mem_singleton.mp hnew) ▸ hentry

/-- The four remembered values, as they follow from the trace. -/
structure Tracks (trace : QualificationTrace) (continuity : QualificationContinuity) : Prop where
  request : continuity.lastRequestMv = lastRequest trace
  confirmed : continuity.lastConfirmedContractMv = lastConfirmed trace
  accepted : ∀ timeMs, continuity.lastAcceptedAtMs = some timeMs →
    ∃ accepted, PausedSince accepted trace ∧ accepted.elapsedMs = timeMs
  since : ∀ accepted, PausedSince accepted trace →
    continuity.lastAcceptedAtMs = some accepted.elapsedMs
  edge : ∀ timeMs, continuity.ppsEdgeAtMs = some timeMs →
    ∃ front change measurement rest, trace = front ++ (change, measurement) :: rest ∧
      ChangesPps front change ∧ change.elapsedMs = timeMs
  paused : ∀ front sample, trace = front ++ [(sample, .ppsPause)] →
    continuity.ppsEdgeAtMs.isSome

theorem tracks_new : Tracks [] .new where
  request := rfl
  confirmed := rfl
  accepted _ h := nomatch h
  since := by
    rintro accepted ⟨before, measurement, pause, htrace, -⟩
    exact absurd htrace.symm (by simp)
  edge _ h := nomatch h
  paused front sample h := absurd h.symm (by simp)

namespace Tracks

/-- An edge that is remembered after a sample was seen in it or before it. -/
theorem edge_noteEdges (h : Tracks trace continuity) (measurement : QualificationMeasurement)
    {timeMs : ℕ} (hedge : (continuity.noteEdges sample).ppsEdgeAtMs = some timeMs) :
    ∃ front change result rest,
      trace ++ [(sample, measurement)] = front ++ (change, result) :: rest ∧
        ChangesPps front change ∧ change.elapsedMs = timeMs := by
  unfold noteEdges at hedge
  dsimp only at hedge
  split_ifs at hedge with hchanges
  · rw [h.request, h.confirmed] at hchanges
    exact ⟨trace, sample, measurement, [], rfl, hchanges, Option.some.inj hedge⟩
  · obtain ⟨front, change, result, rest, rfl, hchange, htime⟩ := h.edge timeMs hedge
    refine ⟨front, change, result, rest ++ [(sample, measurement)], ?_, hchange, htime⟩
    rw [List.append_assoc, List.cons_append]

theorem step (h : Tracks trace continuity) (hobserves : Observes continuity entry after) :
    Tracks (trace ++ [entry]) after := by
  obtain ⟨sample, measurement⟩ := entry
  have hcase : ObserveCase continuity sample after measurement := observe_case_of_observes hobserves
  have hrequest : (continuity.noteEdges sample).lastRequestMv =
      lastRequest (trace ++ [(sample, measurement)]) :=
    (lastRequest_concat trace (sample, measurement)).symm
  have hconfirmed : (continuity.noteEdges sample).lastConfirmedContractMv =
      lastConfirmed (trace ++ [(sample, measurement)]) := by
    rw [lastConfirmed_concat, ← h.confirmed]
    rfl
  cases hcase with
  | accepted haccepted =>
    refine ⟨hrequest, hconfirmed, ?_, ?_, ?_, ?_⟩
    · intro timeMs htime
      exact ⟨sample, pausedSince_concat.mpr (.inl ⟨rfl, haccepted⟩), Option.some.inj htime⟩
    · intro accepted hsince
      rcases pausedSince_concat.mp hsince with ⟨hsame, -⟩ | ⟨hpause, -⟩
      · exact congrArg (fun sample => some sample.elapsedMs) hsame
      · exact absurd hpause (accept_ne_ppsPause _ _)
    · intro timeMs hedge
      apply h.edge_noteEdges
      unfold accept at hedge
      dsimp only at hedge
      split_ifs at hedge
      exact hedge
    · intro front other htrace
      obtain ⟨-, hlast⟩ := List.append_inj' htrace rfl
      exact absurd (congrArg Prod.snd (List.singleton_inj.mp hlast)) (accept_ne_ppsPause _ _)
  | pause hnot hedge hrecent =>
    refine ⟨hrequest, hconfirmed, ?_, ?_, ?_, ?_⟩
    · intro timeMs htime
      obtain ⟨accepted, hsince, htime⟩ := h.accepted timeMs htime
      exact ⟨accepted, pausedSince_concat.mpr (.inr ⟨rfl, hsince⟩), htime⟩
    · intro accepted hsince
      rcases pausedSince_concat.mp hsince with ⟨rfl, haccepted⟩ | ⟨-, hsince⟩
      · rw [hnot] at haccepted
        cases haccepted
      · exact h.since accepted hsince
    · exact fun timeMs htime => h.edge_noteEdges _ htime
    · intro _ _ _
      obtain ⟨timeMs, htime, -⟩ := (Option.any_eq_true _ _).mp hedge
      rw [htime]
      rfl
  | rejected hnot =>
    refine ⟨hrequest, hconfirmed, nofun, ?_, nofun, ?_⟩
    · intro accepted hsince
      rcases pausedSince_concat.mp hsince with ⟨rfl, haccepted⟩ | ⟨hpause, -⟩
      · rw [hnot] at haccepted
        cases haccepted
      · cases hpause
    · intro front other htrace
      obtain ⟨-, hlast⟩ := List.append_inj' htrace rfl
      exact nomatch congrArg Prod.snd (List.singleton_inj.mp hlast)

theorem of_reaches (h : Reaches Observes .new trace continuity) : Tracks trace continuity := by
  induction h with
  | refl => exact tracks_new
  | step _ hobserves ih => exact ih.step hobserves

end Tracks

/-! ## The bound -/

theorem elapsed_of_recent {timeMs : ℕ} (h : sample.recent timeMs = true) :
    timeMs ≤ sample.elapsedMs ∧ sample.elapsedMs ≤ timeMs + qualificationPauseMs := by
  obtain ⟨hle, hage⟩ := of_decide_eq_true h
  exact ⟨hle, Nat.sub_le_iff_le_add'.mp hage⟩

theorem pause_of_observes (htracks : Tracks trace continuity)
    (hobserves : Observes continuity (sample, .ppsPause) after) :
    (∃ timeMs, continuity.lastAcceptedAtMs = some timeMs ∧ sample.recent timeMs = true) ∧
      ∃ front change measurement rest,
        trace ++ [(sample, .ppsPause)] = front ++ (change, measurement) :: rest ∧
          ChangesPps front change ∧ sample.recent change.elapsedMs = true := by
  have hcase : ObserveCase continuity sample after .ppsPause := observe_case_of_observes hobserves
  generalize hmeasurement : QualificationMeasurement.ppsPause = measurement at hcase
  cases hcase with
  | accepted => exact absurd hmeasurement.symm (accept_ne_ppsPause _ _)
  | rejected => cases hmeasurement
  | pause hnot hedge hrecent =>
    obtain ⟨edgeMs, hedgeMs, hedgeRecent⟩ := (Option.any_eq_true _ _).mp hedge
    obtain ⟨front, change, measurement, rest, htrace, hchanges, rfl⟩ :=
      htracks.edge_noteEdges .ppsPause hedgeMs
    exact ⟨(Option.any_eq_true _ _).mp hrecent, front, change, measurement, rest, htrace,
      hchanges, hedgeRecent⟩

/-- What comes more than a second after the last accepted sample starts anew. -/
theorem freshAfterGap_of_observes {result : QualificationMeasurement} {timeMs : ℕ}
    (hobserves : Observes continuity (sample, result) after)
    (hedge : continuity.ppsEdgeAtMs.isSome) (hlast : continuity.lastAcceptedAtMs = some timeMs)
    (haccepted : sample.isAccepted = true)
    (hgap : timeMs + qualificationPauseMs < sample.elapsedMs) : result = .freshAfterGap := by
  have hcase : ObserveCase continuity sample after result := observe_case_of_observes hobserves
  cases hcase with
  | pause hnot | rejected hnot =>
    rw [haccepted] at hnot
    cases hnot
  | accepted =>
    have hstill : (continuity.noteEdges sample).ppsEdgeAtMs.isSome := by
      unfold noteEdges
      dsimp only
      split_ifs
      · rfl
      · exact hedge
    have hsame : (continuity.noteEdges sample).lastAcceptedAtMs = some timeMs := hlast
    have hexpired : qualificationPauseMs < sample.elapsedMs - timeMs :=
      Nat.lt_sub_iff_add_lt'.mpr hgap
    unfold accept
    dsimp only
    rw [hstill, hsame, Option.any_some, decide_eq_true hexpired]
    rfl

theorem pausedSince_of_pauses {before pause : QualificationTrace}
    {measurement : QualificationMeasurement} (haccepted : accepted.isAccepted = true)
    (hpause : ∀ entry ∈ pause, entry.2 = .ppsPause) :
    PausedSince accepted (before ++ (accepted, measurement) :: pause) :=
  ⟨before, measurement, pause, rfl, haccepted, hpause⟩

theorem pauseBounded_of_reaches (h : Reaches Observes .new trace continuity) :
    PauseBounded trace where
  accepted := by
    rintro before sample rest rfl
    obtain ⟨state, after, hbefore, hobserves⟩ := h.split
    have htracks := Tracks.of_reaches hbefore
    obtain ⟨⟨timeMs, hlast, hrecent⟩, -⟩ := pause_of_observes htracks hobserves
    obtain ⟨accepted, hsince, rfl⟩ := htracks.accepted timeMs hlast
    exact ⟨accepted, hsince, elapsed_of_recent hrecent⟩
  changed := by
    rintro before sample rest rfl
    obtain ⟨state, after, hbefore, hobserves⟩ := h.split
    obtain ⟨-, front, change, measurement, rest, htrace, hchanges, hrecent⟩ :=
      pause_of_observes (Tracks.of_reaches hbefore) hobserves
    exact ⟨front, change, measurement, rest, htrace, hchanges, elapsed_of_recent hrecent⟩
  within := by
    rintro before accepted measurement pause rest rfl haccepted hpause entry hmem
    obtain ⟨front, back, rfl⟩ := List.append_of_mem hmem
    -- the pause up to the entry has the same last accepted sample
    have hfront : ∀ other ∈ front, other.2 = .ppsPause :=
      fun other hother => hpause other (List.mem_append_left _ hother)
    have hsplit : before ++ (accepted, measurement) :: (front ++ entry :: back ++ rest) =
        (before ++ (accepted, measurement) :: front) ++ entry :: (back ++ rest) := by simp
    obtain ⟨state, after, hbefore, hobserves⟩ := (hsplit ▸ h).split
    have htracks := Tracks.of_reaches hbefore
    obtain ⟨sample, result⟩ := entry
    obtain rfl : result = .ppsPause := hpause _ hmem
    obtain ⟨⟨timeMs, hlast, hrecent⟩, -⟩ := pause_of_observes htracks hobserves
    obtain rfl := Option.some.inj
      ((htracks.since accepted (pausedSince_of_pauses haccepted hfront)).symm.trans hlast)
    exact (elapsed_of_recent hrecent).2
  resumes := by
    rintro before accepted measurement pause sample result rest rfl haccepted hnonempty hpause
      hsample hgap
    have hsplit : before ++ (accepted, measurement) :: (pause ++ (sample, result) :: rest) =
        (before ++ (accepted, measurement) :: pause) ++ (sample, result) :: rest := by simp
    obtain ⟨state, after, hbefore, hobserves⟩ := (hsplit ▸ h).split
    have htracks := Tracks.of_reaches hbefore
    obtain ⟨front, last, rfl⟩ := (List.eq_nil_or_concat' pause).resolve_left hnonempty
    have hlastPause : last.2 = .ppsPause := hpause last (List.mem_append_right _ List.mem_cons_self)
    have hedge : state.ppsEdgeAtMs.isSome := by
      apply htracks.paused (before ++ (accepted, measurement) :: front) last.1
      rw [← hlastPause, List.append_assoc, List.cons_append]
    exact freshAfterGap_of_observes hobserves hedge
      (htracks.since accepted (pausedSince_of_pauses haccepted hpause)) hsample hgap

/-- A sample at 220 °C, with the requested voltage confirmed. -/
def steadySample (elapsedMs requestedMv : ℕ) (accepted : Bool) : QualificationObservation where
  elapsedMs := elapsedMs
  requestedMv := some requestedMv
  confirmedContractMv := some requestedMv
  valid := true
  accepted := accepted
  temperatureCentiC := 22000
  rawTemperatureCentiC := some 21997
  targetC := 220

/-- The pauses of every sequence of samples are bounded. -/
theorem pauseBounded_observeAll (samples : List QualificationObservation) :
    PauseBounded (observeAll samples).2 :=
  pauseBounded_of_reaches (reaches_observeAll samples)

/-- The first accepted sample after a pause is fresh when a rejected one came first. -/
theorem not_lateResume_after_rejection :
    ¬∀ samples : List QualificationObservation,
      (samples.Pairwise fun earlier later => earlier.elapsedMs ≤ later.elapsedMs) →
        ∀ before accepted measurement pause between sample result after,
          (observeAll samples).2 = before ++ (accepted, measurement) ::
              (pause ++ (between ++ (sample, result) :: after)) →
            accepted.isAccepted = true → pause ≠ [] → (∀ entry ∈ pause, entry.2 = .ppsPause) →
              (∀ entry ∈ between, entry.1.isAccepted = false ∧
                accepted.elapsedMs + qualificationPauseMs < entry.1.elapsedMs) →
                sample.isAccepted = true →
                  accepted.elapsedMs + qualificationPauseMs < sample.elapsedMs →
                    result = .freshAfterGap := by
  intro h
  have hgap := h
    [steadySample 0 20500 true, steadySample 500 21000 false, steadySample 1500 21000 false,
      steadySample 2000 21000 true] (by decide) [] (steadySample 0 20500 true) .fresh
    [(steadySample 500 21000 false, .ppsPause)] [(steadySample 1500 21000 false, .rejected)]
    (steadySample 2000 21000 true) .fresh [] (by decide +kernel) (by decide) (by decide)
    (by decide) (by decide) (by decide) (by decide)
  cases hgap

end FluxPurr.Thermal
