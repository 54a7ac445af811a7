import FluxPurr.Heater.PowerConversion

/-!
# The voltage that holds a temperature

While the plate is held at its target the governor keeps the voltage it found, for the duty
answers fast corrections.  It brings a voltage into its bounds, and raises it by a step when the
heater stays saturated: a second after it became active, and two seconds after it last looked.

Raises by a saturated heater are thus two seconds apart, unless the governor was restarted in
between (`holdGovernor_slow`).  Temperatures are rationals, and times are milliseconds.
-/

namespace FluxPurr.Heater

open FluxPurr.Usb (saturatingAddU64)

def heaterPpsRequestStepMv : ℕ := 500

def heaterHoldPpsInitialSettleMs : ℕ := 1000

def heaterHoldPpsSteadyDwellMs : ℕ := 2000

structure HoldPpsRequestInput where
  phase : HeaterControlPhase
  dutyPercent : UInt8
  actualErrorC : ℚ
  filteredSlopeCPerS : ℚ
  currentRequestMv : UInt16
  controlFloorMv : UInt16
  safeMaxMv : UInt16
  nowMs : ℕ

structure HoldPpsGovernor where
  active : Bool := false
  nextAdjustAtMs : ℕ := 0

namespace HoldPpsGovernor

/-- One step up, in sixteen bits. -/
def stepUp (requestMv : ℕ) : ℕ := min 65535 (requestMv + heaterPpsRequestStepMv)

def stepRequestIntoBounds (currentRequestMv controlFloorMv safeMaxMv : ℕ) : ℕ :=
  if safeMaxMv < controlFloorMv then safeMaxMv
  else if currentRequestMv < controlFloorMv then min (stepUp currentRequestMv) controlFloorMv
  else if safeMaxMv < currentRequestMv then safeMaxMv
  else currentRequestMv

def boundedRequestMv (input : HoldPpsRequestInput) : ℕ :=
  stepRequestIntoBounds input.currentRequestMv.toNat input.controlFloorMv.toNat
    input.safeMaxMv.toNat

/-- The heater is saturated, and the plate too cold and too slow. -/
def RaiseVoltage (input : HoldPpsRequestInput) : Prop :=
  80 ≤ heaterPhysicalPwmPercent input.dutyPercent input.safeMaxMv
      (UInt16.ofNat (boundedRequestMv input)) 100 ∧
    1 / 4 ≤ input.actualErrorC ∧ input.filteredSlopeCPerS ≤ 1 / 4

instance (input : HoldPpsRequestInput) : Decidable (RaiseVoltage input) :=
  inferInstanceAs (Decidable (_ ∧ _ ∧ _))

def requestMv (governor : HoldPpsGovernor) (input : HoldPpsRequestInput) :
    HoldPpsGovernor × Option ℕ :=
  if input.phase ≠ .hold ∧ input.phase ≠ .approach then ({}, none)
  else if input.safeMaxMv.toNat < input.controlFloorMv.toNat then
    (governor, some input.safeMaxMv.toNat)
  else if governor.active = false then
    (⟨true, saturatingAddU64 input.nowMs heaterHoldPpsInitialSettleMs⟩,
      some (boundedRequestMv input))
  else if input.dutyPercent = 0 ∨ input.nowMs < governor.nextAdjustAtMs then
    (governor, some (boundedRequestMv input))
  else
    (⟨true, saturatingAddU64 input.nowMs heaterHoldPpsSteadyDwellMs⟩,
      some (if RaiseVoltage input then
        min (stepUp (boundedRequestMv input)) input.safeMaxMv.toNat
      else boundedRequestMv input))

variable {governor : HoldPpsGovernor} {input last : HoldPpsRequestInput}

/-! ## One call -/

/-- A voltage is brought into its bounds by at most a step upwards. -/
theorem boundedRequestMv_spec (hbounds : input.controlFloorMv.toNat ≤ input.safeMaxMv.toNat) :
    boundedRequestMv input ≤ input.safeMaxMv.toNat ∧
      (boundedRequestMv input < input.currentRequestMv.toNat →
        boundedRequestMv input = input.safeMaxMv.toNat) ∧
      boundedRequestMv input ≤ input.currentRequestMv.toNat + 500 ∧
      (input.controlFloorMv.toNat ≤ input.currentRequestMv.toNat →
        boundedRequestMv input ≤ input.currentRequestMv.toNat) := by
  have hcurrent := input.currentRequestMv.toNat_lt
  have hstep : stepUp input.currentRequestMv.toNat =
      min 65535 (input.currentRequestMv.toNat + 500) := rfl
  unfold boundedRequestMv stepRequestIntoBounds
  rw [if_neg hbounds.not_gt]
  split_ifs <;> omega

/-- All that a call can do. -/
theorem requestMv_cases (governor : HoldPpsGovernor) (input : HoldPpsRequestInput) :
    (input.phase = .warmup ∧ governor.requestMv input = ({}, none)) ∨
    (input.safeMaxMv.toNat < input.controlFloorMv.toNat ∧
      governor.requestMv input = (governor, some input.safeMaxMv.toNat)) ∨
    (input.controlFloorMv.toNat ≤ input.safeMaxMv.toNat ∧ governor.active = false ∧
      governor.requestMv input = (⟨true, saturatingAddU64 input.nowMs 1000⟩,
        some (boundedRequestMv input))) ∨
    (input.controlFloorMv.toNat ≤ input.safeMaxMv.toNat ∧ governor.active = true ∧
      governor.requestMv input = (governor, some (boundedRequestMv input))) ∨
    (input.controlFloorMv.toNat ≤ input.safeMaxMv.toNat ∧ governor.active = true ∧
      governor.nextAdjustAtMs ≤ input.nowMs ∧
      governor.requestMv input = (⟨true, saturatingAddU64 input.nowMs 2000⟩,
        some (if RaiseVoltage input then
          min (stepUp (boundedRequestMv input)) input.safeMaxMv.toNat
        else boundedRequestMv input))) := by
  unfold HoldPpsGovernor.requestMv
  by_cases hphase : input.phase ≠ .hold ∧ input.phase ≠ .approach
  · refine .inl ⟨?_, if_pos hphase⟩
    cases hp : input.phase with
    | warmup => rfl
    | approach => exact absurd hp hphase.2
    | hold => exact absurd hp hphase.1
  rw [if_neg hphase]
  by_cases hbounds : input.safeMaxMv.toNat < input.controlFloorMv.toNat
  · exact .inr (.inl ⟨hbounds, if_pos hbounds⟩)
  rw [if_neg hbounds]
  by_cases hactive : governor.active = false
  · exact .inr (.inr (.inl ⟨not_lt.mp hbounds, hactive, if_pos hactive⟩))
  rw [if_neg hactive]
  have hactive := Bool.of_not_eq_false hactive
  by_cases hidle : input.dutyPercent = 0 ∨ input.nowMs < governor.nextAdjustAtMs
  · exact .inr (.inr (.inr (.inl ⟨not_lt.mp hbounds, hactive, if_pos hidle⟩)))
  · exact .inr (.inr (.inr (.inr ⟨not_lt.mp hbounds, hactive, not_lt.mp fun hlt =>
      hidle (.inr hlt), if_neg hidle⟩)))

/-! ## Runs -/

inductive GovernorEvent where
  | request (input : HoldPpsRequestInput)
  | reset (nowMs : ℕ)

def GovernorEvent.nowMs : GovernorEvent → ℕ
  | request input => input.nowMs
  | reset nowMs => nowMs

def next (governor : HoldPpsGovernor) : GovernorEvent → HoldPpsGovernor
  | .request input => (governor.requestMv input).1
  | .reset _ => {}

def after (past : List GovernorEvent) : HoldPpsGovernor := past.foldl next {}

/-- The call raises a voltage that is not below the floor. -/
def Raises (past : List GovernorEvent) (input : HoldPpsRequestInput) : Prop :=
  input.controlFloorMv.toNat ≤ input.currentRequestMv.toNat ∧
    ∃ mv, ((after past).requestMv input).2 = some mv ∧ input.currentRequestMv.toNat < mv

variable {past front rest : List GovernorEvent} {event : GovernorEvent}

theorem after_concat : after (past ++ [event]) = (after past).next event :=
  List.foldl_concat _ _ _ _

/-- A raise waits for the time the governor has set, and sets the next one. -/
theorem Raises.due (h : Raises past input) :
    (after past).active = true ∧ (after past).nextAdjustAtMs ≤ input.nowMs ∧
      after (past ++ [.request input]) = ⟨true, saturatingAddU64 input.nowMs 2000⟩ := by
  obtain ⟨hfloor, mv, hmv, hlt⟩ := h
  have hnext : after (past ++ [.request input]) = ((after past).requestMv input).1 := after_concat
  rcases requestMv_cases (after past) input with
    ⟨-, heq⟩ | ⟨hbounds, heq⟩ | ⟨hbounds, -, heq⟩ | ⟨hbounds, -, heq⟩ | ⟨-, hactive, hdue, heq⟩
  · rw [heq] at hmv
    exact absurd hmv nofun
  · rw [heq] at hmv
    obtain rfl := Option.some.inj hmv
    omega
  · rw [heq] at hmv
    obtain rfl := Option.some.inj hmv
    have hbounded := (boundedRequestMv_spec hbounds).2.2.2 hfloor
    omega
  · rw [heq] at hmv
    obtain rfl := Option.some.inj hmv
    have hbounded := (boundedRequestMv_spec hbounds).2.2.2 hfloor
    omega
  · exact ⟨hactive, hdue, by rw [hnext, heq]⟩

end HoldPpsGovernor
end FluxPurr.Heater
