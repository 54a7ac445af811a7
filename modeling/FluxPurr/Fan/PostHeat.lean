import FluxPurr.Fan.Policy

/-!
# Post-heat cooling

When the heater is switched off above the cool-down temperature, the fan should run until the first
valid sample at or below that temperature and for the length of the tail after it (`RunsToEnd`).
The policy remembers the run in the state of its last decision only, and the switch-off in a flag
that every cycle overwrites.

From the switch-off on there are three phases: the plate is hot and the state is one of the two that
cool it, the tail of the first cool sample runs, or it has ended.  A cycle that finds a sensor fault
holds the state, and forgets the switch-off where it falls into it.  A tail that was left over from
an earlier cooling is taken for that of the new one.  Where neither happens (`Kept`), and only
there, the cooling runs to its end whatever follows.
-/

namespace FluxPurr.Fan

open FluxPurr.Memory (PostHeatCoolingMode HeatingFanGuardMode)
open FluxPurr.Usb (saturatingAddU64)
open FanLoop

/-- A valid sample at or below the cool-down temperature. -/
def FanCycle.isCool (cycle : FanCycle) : Bool :=
  !cycle.sensorFault && decide (cycle.displayTempC ≤ 40)

def firstCoolMs (cycles : List FanCycle) : Option ℕ :=
  (cycles.find? FanCycle.isCool).map FanCycle.elapsedMs

/-- The end of a tail. -/
def tailEndMs (coolMs : ℕ) : ℕ := saturatingAddU64 coolMs autoCoolingFanCooldownMs

/-- After the given cycles since the switch-off, the fan is due: no sample was cool yet, or the tail
of the first one still runs. -/
def Due (cycles : List FanCycle) (nowMs : ℕ) : Prop :=
  ∀ coolMs ∈ firstCoolMs cycles, nowMs < tailEndMs coolMs

/-- The heater goes from enabled to disabled, above the cool-down temperature and with post-heat
cooling. -/
structure OffEdge (loop : FanLoop) (edge : FanCycle) : Prop where
  enabledBefore : loop.heaterEnabledLastCycle = true
  disabled : edge.heaterEnabled = false
  mode : edge.postHeatMode.isEnabled = true
  hot : 40 < edge.displayTempC

/-- Neither the heater nor the mode changes after the switch-off, and time does not run back. -/
structure StaysOff (edge : FanCycle) (tail : List FanCycle) : Prop where
  heater : ∀ cycle ∈ tail, cycle.heaterEnabled = false
  mode : ∀ cycle ∈ tail, cycle.postHeatMode = edge.postHeatMode
  ordered : (edge :: tail).Pairwise fun earlier later => earlier.elapsedMs ≤ later.elapsedMs

/-- In every cycle with a valid sensor, the fan is enabled exactly as long as it is due. -/
def RunsToEnd (loop : FanLoop) (cycles : List FanCycle) : Prop :=
  ∀ front cycle back, cycles = front ++ cycle :: back → cycle.sensorFault = false →
    (((loop.after front).decision cycle).command.enabled = true ↔
      Due (front ++ [cycle]) cycle.elapsedMs)

/-- The states that cool a hot plate. -/
def Cooling (state : FanPolicyState) : Prop := state = .postHeatMedium ∨ state = .activeCooling

/-- The policy keeps the switch-off: without a sensor fault, no tail is left over; with one, the
held state is one that cools. -/
def Kept (loop : FanLoop) (edge : FanCycle) : Prop :=
  if edge.sensorFault then Cooling loop.fanPolicyState
  else ∀ untilMs profile, loop.fanPolicyState ≠ .postHeatCooldown untilMs profile

/-! ## Runs -/

variable {loop : FanLoop} {edge cycle : FanCycle} {cycles tail : List FanCycle}

@[simp] theorem after_concat : loop.after (cycles ++ [cycle]) =
    (loop.after cycles).runtimeUpdateFan cycle :=
  List.foldl_concat ..

theorem firstCoolMs_concat :
    firstCoolMs (cycles ++ [cycle]) =
      (firstCoolMs cycles).or (if cycle.isCool then some cycle.elapsedMs else none) := by
  unfold firstCoolMs
  rw [List.find?_append, Option.map_or, List.find?_singleton]
  split_ifs
  · rfl
  · rfl

/-! ## One cycle with the heater off -/

theorem decision_state_of_valid (hvalid : cycle.sensorFault = false)
    (hoff : cycle.heaterEnabled = false) :
    (loop.decision cycle).state =
      if cycle.postHeatMode.isEnabled &&
          (loop.heaterEnabledLastCycle || loop.fanPolicyState.isPostHeat) then
        match loop.fanPolicyState with
        | .postHeatCooldown untilMs profile =>
          if cycle.elapsedMs < untilMs then .postHeatCooldown untilMs profile else .disabled
        | _ => postHeatState cycle.displayTempC cycle.elapsedMs cycle.postHeatMode
      else .disabled := by
  simp only [decision, fanPolicyDecisionWithModes, fanPolicyState, hvalid, hoff,
    Bool.not_false, Bool.and_true, Bool.false_eq_true, if_false]
  split_ifs
  · cases loop.fanPolicyState with
    | postHeatCooldown untilMs profile => rfl
    | _ => rfl
  · rfl

theorem decision_state_of_fault (hfault : cycle.sensorFault = true) :
    (loop.decision cycle).state = loop.fanPolicyState := by
  simp [decision, fanPolicyDecisionWithModes, fanPolicyState, hfault]

theorem decision_command : (loop.decision cycle).command =
    (loop.decision cycle).state.command cycle.elapsedMs := rfl

theorem cooling_postHeatState {mode : PostHeatCoolingMode} (hmode : mode.isEnabled = true)
    {tempC : ℤ} (hhot : 40 < tempC) (elapsedMs : ℕ) :
    Cooling (postHeatState tempC elapsedMs mode) := by
  cases mode with
  | off => cases hmode
  | normal =>
    rw [postHeatState, if_pos hhot]
    exact .inl rfl
  | fast =>
    unfold postHeatState
    split_ifs
    · exact .inr rfl
    · exact .inl rfl

theorem postHeatState_of_cool {mode : PostHeatCoolingMode} (hmode : mode.isEnabled = true)
    {tempC : ℤ} (hcool : tempC ≤ 40) (elapsedMs : ℕ) :
    ∃ profile, postHeatState tempC elapsedMs mode =
      .postHeatCooldown (tailEndMs elapsedMs) profile := by
  cases mode with
  | off => cases hmode
  | normal => exact ⟨.minimum, if_neg (by omega)⟩
  | fast =>
    refine ⟨.safeHalf, ?_⟩
    rw [postHeatState, if_neg (by omega), if_neg (by omega)]
    rfl

variable {state : FanPolicyState}

theorem Cooling.isPostHeat (h : Cooling state) :
    state.isPostHeat = true := by
  rcases h with rfl | rfl
  · rfl
  · rfl

theorem Cooling.enabled (h : Cooling state) (elapsedMs : ℕ) :
    (state.command elapsedMs).enabled = true := by
  rcases h with rfl | rfl
  · rfl
  · rfl

theorem Cooling.ne_postHeatCooldown (h : Cooling state) (untilMs : ℕ)
    (profile : FanVoltageProfile) : state ≠ .postHeatCooldown untilMs profile := by
  rcases h with rfl | rfl
  · exact nofun
  · exact nofun

/-- Without a tail left over, a valid cycle cools by the temperature of the plate. -/
theorem decision_state_of_no_tail (hvalid : cycle.sensorFault = false)
    (hoff : cycle.heaterEnabled = false) (hmode : cycle.postHeatMode.isEnabled = true)
    (hon : loop.heaterEnabledLastCycle = true ∨ loop.fanPolicyState.isPostHeat = true)
    (hno : ∀ untilMs profile, loop.fanPolicyState ≠ .postHeatCooldown untilMs profile) :
    (loop.decision cycle).state =
      postHeatState cycle.displayTempC cycle.elapsedMs cycle.postHeatMode := by
  rw [decision_state_of_valid hvalid hoff, if_pos (by simpa [hmode] using hon)]
  split
  · rename_i untilMs profile hstate
    exact absurd hstate (hno untilMs profile)
  · rfl

/-! ## The phases -/

/-- From the switch-off on: no sample was cool yet, the tail of the first one runs, or it is over at
the last cycle. -/
inductive Phase (lastMs : ℕ) : Option ℕ → FanPolicyState → Prop
  | hot {state : FanPolicyState} (hcooling : Cooling state) : Phase lastMs none state
  | cooldown (coolMs : ℕ) (profile : FanVoltageProfile) :
      Phase lastMs (some coolMs) (.postHeatCooldown (tailEndMs coolMs) profile)
  | ended (coolMs : ℕ) (hover : tailEndMs coolMs ≤ lastMs) : Phase lastMs (some coolMs) .disabled

/-- A valid cycle goes on with the phase, and enables the fan while it is due. -/
theorem Phase.valid {lastMs : ℕ} (h : Phase lastMs (firstCoolMs cycles) loop.fanPolicyState)
    (hlast : loop.heaterEnabledLastCycle = false) (horder : lastMs ≤ cycle.elapsedMs)
    (hvalid : cycle.sensorFault = false) (hoff : cycle.heaterEnabled = false)
    (hmode : cycle.postHeatMode.isEnabled = true) :
    Phase cycle.elapsedMs (firstCoolMs (cycles ++ [cycle])) (loop.decision cycle).state ∧
      ((loop.decision cycle).command.enabled = true ↔
        Due (cycles ++ [cycle]) cycle.elapsedMs) := by
  rw [decision_command, Due, firstCoolMs_concat]
  generalize firstCoolMs cycles = cool at h
  generalize hstate : loop.fanPolicyState = state at h
  cases h with
  | hot hcooling =>
    have hdecided := @decision_state_of_no_tail loop cycle hvalid hoff hmode
      (.inr (hstate ▸ hcooling.isPostHeat)) (hstate ▸ hcooling.ne_postHeatCooldown)
    rw [hdecided]
    by_cases hcool : cycle.displayTempC ≤ 40
    · obtain ⟨profile, htail⟩ := postHeatState_of_cool hmode hcool cycle.elapsedMs
      have hiscool : cycle.isCool = true := by simp [FanCycle.isCool, hvalid, hcool]
      rw [htail, hiscool]
      refine ⟨.cooldown _ _, ?_⟩
      simp only [FanPolicyState.command]
      split_ifs with hruns
      · simpa using hruns
      · simpa using hruns
    · have hiscool : cycle.isCool = false := by simp [FanCycle.isCool, hcool]
      have hstill := cooling_postHeatState hmode (Int.not_le.mp hcool) cycle.elapsedMs
      rw [hiscool]
      exact ⟨.hot hstill, iff_of_true (hstill.enabled _) nofun⟩
  | cooldown coolMs profile =>
    have hon : (cycle.postHeatMode.isEnabled && (loop.heaterEnabledLastCycle ||
        (FanPolicyState.postHeatCooldown (tailEndMs coolMs) profile).isPostHeat)) = true := by
      simp [hmode, FanPolicyState.isPostHeat]
    rw [decision_state_of_valid hvalid hoff, hstate, if_pos hon, Option.some_or]
    dsimp only
    split_ifs with hruns
    · refine ⟨.cooldown coolMs profile, ?_⟩
      simp [FanPolicyState.command, hruns]
    · exact ⟨.ended coolMs (Nat.le_of_not_lt hruns), by
        simpa [FanPolicyState.command] using hruns⟩
  | ended coolMs hover =>
    have hnot : ¬ (cycle.postHeatMode.isEnabled &&
        (false || FanPolicyState.disabled.isPostHeat)) = true := by
      simp [FanPolicyState.isPostHeat]
    rw [decision_state_of_valid hvalid hoff, hstate, hlast, if_neg hnot, Option.some_or]
    have hpast := Nat.le_trans hover horder
    exact ⟨.ended coolMs hpast, by simpa [FanPolicyState.command] using hpast⟩

theorem Phase.fault {lastMs : ℕ} (h : Phase lastMs (firstCoolMs cycles) loop.fanPolicyState)
    (horder : lastMs ≤ cycle.elapsedMs) (hfault : cycle.sensorFault = true) :
    Phase cycle.elapsedMs (firstCoolMs (cycles ++ [cycle])) (loop.decision cycle).state := by
  have hnot : cycle.isCool = false := by simp [FanCycle.isCool, hfault]
  rw [decision_state_of_fault hfault, firstCoolMs_concat, hnot, if_neg (by decide), Option.or_none]
  generalize firstCoolMs cycles = cool at h
  generalize loop.fanPolicyState = state at h
  cases h with
  | hot hcooling => exact .hot hcooling
  | cooldown coolMs profile => exact .cooldown coolMs profile
  | ended coolMs hover => exact .ended coolMs (Nat.le_trans hover horder)

theorem Phase.mono {lastMs nowMs : ℕ} {coolMs : Option ℕ}
    (h : Phase lastMs coolMs state) (hle : lastMs ≤ nowMs) : Phase nowMs coolMs state := by
  cases h with
  | hot hcooling => exact .hot hcooling
  | cooldown coolMs profile => exact .cooldown coolMs profile
  | ended coolMs hover => exact .ended coolMs (Nat.le_trans hover hle)

/-! ## The switch-off -/

theorem OffEdge.not_isCool (h : OffEdge loop edge) : edge.isCool = false := by
  have hhot := h.hot
  simp only [FanCycle.isCool, Bool.and_eq_false_iff, decide_eq_false_iff_not]
  exact .inr (by omega)

/-- The switch-off leaves a state that cools where the policy keeps it, and only there. -/
theorem OffEdge.cooling_iff (h : OffEdge loop edge) :
    Cooling (loop.decision edge).state ↔ Kept loop edge := by
  unfold Kept
  cases hfault : edge.sensorFault with
  | true => rw [if_pos rfl, decision_state_of_fault hfault]
  | false =>
    rw [if_neg (by decide)]
    constructor
    · intro hcooling untilMs profile hstate
      have hon : (edge.postHeatMode.isEnabled && (loop.heaterEnabledLastCycle ||
          (FanPolicyState.postHeatCooldown untilMs profile).isPostHeat)) = true := by
        simp [h.mode, h.enabledBefore]
      rw [decision_state_of_valid hfault h.disabled, hstate, if_pos hon] at hcooling
      dsimp only at hcooling
      split_ifs at hcooling
      · exact hcooling.ne_postHeatCooldown untilMs profile rfl
      · rcases hcooling with hnot | hnot
        · cases hnot
        · cases hnot
    · intro hno
      rw [decision_state_of_no_tail hfault h.disabled h.mode (.inl h.enabledBefore) hno]
      exact cooling_postHeatState h.mode h.hot edge.elapsedMs

theorem StaysOff.front {front back : List FanCycle} (h : StaysOff edge (front ++ cycle :: back)) :
    StaysOff edge front ∧ cycle.heaterEnabled = false ∧ cycle.postHeatMode = edge.postHeatMode ∧
      ∀ earlier ∈ edge :: front, earlier.elapsedMs ≤ cycle.elapsedMs := by
  have hmem : cycle ∈ front ++ cycle :: back := by simp
  have hordered := h.ordered
  rw [← List.cons_append, List.pairwise_append] at hordered
  obtain ⟨hfront, -, hcross⟩ := hordered
  refine ⟨⟨?_, ?_, hfront⟩, h.heater cycle hmem, h.mode cycle hmem, ?_⟩
  · exact fun earlier hearlier => h.heater earlier (List.mem_append_left _ hearlier)
  · exact fun earlier hearlier => h.mode earlier (List.mem_append_left _ hearlier)
  · exact fun earlier hearlier => hcross earlier hearlier cycle (by simp)

theorem phase_after (hedge : OffEdge loop edge) (hcooling : Cooling (loop.decision edge).state)
    (hstays : StaysOff edge tail) :
    (loop.after (edge :: tail)).heaterEnabledLastCycle = false ∧
      ∀ nowMs, (∀ cycle ∈ edge :: tail, cycle.elapsedMs ≤ nowMs) →
        Phase nowMs (firstCoolMs (edge :: tail)) (loop.after (edge :: tail)).fanPolicyState := by
  induction tail using List.reverseRecOn with
  | nil =>
    have hnone : firstCoolMs [edge] = none := by simp [firstCoolMs, hedge.not_isCool]
    refine ⟨hedge.disabled, fun nowMs _ => ?_⟩
    rw [hnone]
    exact .hot hcooling
  | append_singleton front cycle ih =>
    obtain ⟨hfront, hoff, hmode, hle⟩ := hstays.front
    obtain ⟨hlast, hphase⟩ := ih hfront
    have hbefore := hphase cycle.elapsedMs hle
    have henabled : cycle.postHeatMode.isEnabled = true := hmode ▸ hedge.mode
    rw [← List.cons_append, after_concat]
    refine ⟨hoff, fun nowMs hall => ?_⟩
    have hnow : cycle.elapsedMs ≤ nowMs := hall cycle (by simp)
    apply Phase.mono _ hnow
    cases hfault : cycle.sensorFault with
    | true => exact hbefore.fault (Nat.le_refl _) hfault
    | false => exact (hbefore.valid hlast (Nat.le_refl _) hfault hoff henabled).1

/-- A switch-off that leaves a state that cools is followed by a whole cooling. -/
theorem runsToEnd_of_cooling (hedge : OffEdge loop edge)
    (hcooling : Cooling (loop.decision edge).state) (hstays : StaysOff edge tail) :
    RunsToEnd loop (edge :: tail) := by
  intro front cycle back hsplit hvalid
  rcases List.cons_eq_append_iff.mp hsplit with ⟨rfl, hedges⟩ | ⟨mid, rfl, rfl⟩
  · obtain ⟨rfl, -⟩ := List.cons.inj hedges
    refine iff_of_true (hcooling.enabled _) ?_
    simp [Due, firstCoolMs, hedge.not_isCool]
  · obtain ⟨hfront, hoff, hmode, hle⟩ := hstays.front
    obtain ⟨hlast, hphase⟩ := phase_after hedge hcooling hfront
    exact ((hphase cycle.elapsedMs hle).valid hlast (Nat.le_refl _) hvalid hoff
      (hmode ▸ hedge.mode)).2

/-- The end of a tail that is left over. -/
def FanPolicyState.leftOverMs : FanPolicyState → ℕ
  | postHeatCooldown untilMs _ => untilMs
  | _ => 0

/-- Without a state that cools, the fan stops when no tail is left over. -/
theorem decision_disabled (hlast : loop.heaterEnabledLastCycle = false)
    (hnot : ¬ Cooling loop.fanPolicyState) (hvalid : cycle.sensorFault = false)
    (hoff : cycle.heaterEnabled = false)
    (hlate : loop.fanPolicyState.leftOverMs ≤ cycle.elapsedMs) :
    (loop.decision cycle).state = .disabled := by
  rw [decision_state_of_valid hvalid hoff, hlast]
  split_ifs with hon
  · cases hstate : loop.fanPolicyState with
    | postHeatCooldown untilMs profile =>
      rw [hstate] at hlate
      exact if_neg (Nat.not_lt.mpr hlate)
    | postHeatMedium => exact absurd (.inl hstate) hnot
    | activeCooling => exact absurd (.inr hstate) hnot
    | disabled | safeHalf | full | heatingGuardPulse | heatingGuardContinuous =>
      simp [hstate, FanPolicyState.isPostHeat] at hon
  · rfl

/-- A valid cycle with a hot plate, when no tail is left over. -/
def hotCycle (loop : FanLoop) (edge : FanCycle) : FanCycle where
  elapsedMs := max edge.elapsedMs (loop.decision edge).state.leftOverMs
  displayTempC := 41
  heaterEnabled := false
  sensorFault := false
  postHeatMode := edge.postHeatMode
  guardMode := edge.guardMode

theorem staysOff_hotCycle : StaysOff edge [hotCycle loop edge] where
  heater := by simp [hotCycle]
  mode := by simp [hotCycle]
  ordered := by simp [hotCycle]

theorem not_runsToEnd_hotCycle (hedge : OffEdge loop edge)
    (hnot : ¬ Cooling (loop.decision edge).state) :
    ¬ RunsToEnd loop [edge, hotCycle loop edge] := by
  intro h
  have hend := h [edge] (hotCycle loop edge) [] rfl rfl
  have hstate : ((loop.after [edge]).decision (hotCycle loop edge)).state = .disabled :=
    decision_disabled hedge.disabled hnot rfl rfl (Nat.le_max_right _ _)
  have hdue : Due ([edge] ++ [hotCycle loop edge]) (hotCycle loop edge).elapsedMs := by
    have hhot : (hotCycle loop edge).isCool = false := rfl
    simp [Due, firstCoolMs, hedge.not_isCool, hhot]
  have henabled := hend.mpr hdue
  rw [decision_command, hstate] at henabled
  cases henabled

/-- In every run of the loop, post-heat cooling runs to its end after a switch-off, whatever the
temperatures and the sensor faults are, exactly where the policy keeps the switch-off. -/
theorem postHeat_runsToEnd_iff (cycles : List FanCycle) (hedge : OffEdge (boot.after cycles) edge) :
    (∀ tail, StaysOff edge tail → RunsToEnd (boot.after cycles) (edge :: tail)) ↔
      Kept (boot.after cycles) edge := by
  rw [← hedge.cooling_iff]
  constructor
  · intro h
    by_contra hnot
    exact not_runsToEnd_hotCycle hedge hnot (h _ staysOff_hotCycle)
  · exact fun hcooling tail hstays => runsToEnd_of_cooling hedge hcooling hstays

/-- A heating at 100 °C. -/
def heating : FanCycle := ⟨0, 100, true, false, .normal, .medium⟩

/-- The heater is switched off, the plate cools down, and the tail passes. -/
theorem postHeat_runsToEnd_heating :
    RunsToEnd (boot.after [heating])
      [⟨50, 100, false, false, .normal, .medium⟩, ⟨900, 39, false, false, .normal, .medium⟩,
        ⟨40000, 30, false, false, .normal, .medium⟩] := by
  apply (postHeat_runsToEnd_iff [heating] ⟨rfl, rfl, rfl, by decide⟩).mpr
  · intro untilMs profile hstate
    cases hstate
  · exact ⟨by decide, by decide, by decide⟩

/-- The heater is off with a sensor fault, and the sensor is back while the plate is hot. -/
def switchedOffByFault : List FanCycle :=
  [⟨50, 100, false, true, .normal, .medium⟩, ⟨100, 100, false, false, .normal, .medium⟩]

/-- The guard's pulse is held for the fault, and the cooling never begins. -/
theorem not_runsToEnd_of_fault :
    OffEdge (boot.after [heating]) ⟨50, 100, false, true, .normal, .medium⟩ ∧
      StaysOff ⟨50, 100, false, true, .normal, .medium⟩
        [⟨100, 100, false, false, .normal, .medium⟩] ∧
      ¬ RunsToEnd (boot.after [heating]) switchedOffByFault := by
  refine ⟨⟨rfl, rfl, rfl, by decide⟩, ⟨by decide, by decide, by decide⟩, ?_⟩
  intro h
  have hend := h [⟨50, 100, false, true, .normal, .medium⟩]
    ⟨100, 100, false, false, .normal, .medium⟩ [] rfl rfl
  have hdue : Due switchedOffByFault 100 := by
    have hnone : firstCoolMs switchedOffByFault = none := by decide
    simp [Due, hnone]
  exact absurd (hend.mpr hdue) (by decide)

/-- A heating that begins and ends while a tail runs, with a sensor fault in between. -/
def heatedInTail : List FanCycle :=
  [heating, ⟨50, 41, false, false, .normal, .medium⟩, ⟨60, 40, false, false, .normal, .medium⟩,
    ⟨70, 40, true, true, .normal, .medium⟩]

/-- The tail that is left over is taken for that of the new cooling. -/
theorem not_kept_of_left_over_tail :
    OffEdge (boot.after heatedInTail) ⟨80, 200, false, false, .normal, .medium⟩ ∧
      ¬ Kept (boot.after heatedInTail) ⟨80, 200, false, false, .normal, .medium⟩ := by
  refine ⟨⟨rfl, rfl, rfl, by decide⟩, ?_⟩
  intro h
  exact h 30060 .minimum rfl

end FluxPurr.Fan
