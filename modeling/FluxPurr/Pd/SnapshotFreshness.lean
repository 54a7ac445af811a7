import FluxPurr.Pd.ContractWithdrawal
import FluxPurr.Pd.HeaterPermit

/-!
# The age of a snapshot

A consumer reads the last publication, however old it is.  An old publication with an
observation is stripped of its contract, but one that preserved the contract without an
observation is not: it goes on reporting the contract after the permit has expired
(`reportsFresh_iff`).
-/

namespace FluxPurr.Pd

open FluxPurr.Runs FluxPurr.Power
open FluxPurr.Usb (saturatingAddU64)

namespace PdService

variable {service : PdService} {nowMs : ℕ}

/-! ## The permit of a publication -/

/-- A published contract rests on the permit that was granted with it. -/
def Permitted (service : PdService) : Prop :=
  service.snapshot.active.isSome →
    service.gate.expiresAtMs =
      UInt32.ofNat (saturatingAddU64 service.snapshot.publishedAtMs pdSnapshotMaxAgeMs)

variable {pending : Option (PowerTicket × PendingPdOperation)}

/-- Only a contract seen with VBUS present is published, or the one before. -/
theorem grants_of_publishedContract {observation : Option PdStatusObservation}
    (hactive : ∀ observed, observation = some observed → observed.status.pdActive = true)
    (h : (service.publishedContract nowMs observation).isSome) :
    service.grants nowMs observation pending = true := by
  unfold grants
  cases hobservation : observation with
  | some observed =>
    have hready : startupPdContractReady (some observed) = true := hactive observed hobservation
    rw [hready]
    rfl
  | none =>
    subst hobservation
    unfold publishedContract at h
    have hpreserves : service.preservePreviousContract nowMs none = true := by
      by_contra hnot
      rw [if_neg hnot] at h
      cases h
    rw [hpreserves, Bool.or_true]

theorem permitted_publish {observation : Option PdStatusObservation} {written : Bool}
    (hactive : ∀ observed, observation = some observed → observed.status.pdActive = true) :
    (service.publishPdSnapshot nowMs observation pending written).Permitted := by
  intro h
  have hgrants : service.grants nowMs observation pending = true :=
    grants_of_publishedContract hactive h
  unfold publishPdSnapshot
  dsimp only
  rw [if_pos hgrants]
  rfl

/-- The contract of an observation was seen with VBUS present. -/
theorem pdActive_of_pdStatusObservation {runtime : Fusb302bRuntime}
    {observed : PdStatusObservation} (h : runtime.pdStatusObservation = some observed) :
    observed.status.pdActive = true := by
  obtain ⟨-, -, -, hok⟩ := pdStatusObservation_some h
  unfold Fusb302bRuntime.pdStatusObservation at h
  split_ifs at h
  obtain ⟨source, -, hobservation⟩ := Option.bind_eq_some_iff.mp h
  unfold fusb302bContractObservation at hobservation
  split_ifs at hobservation
  cases hobservation
  exact hok

theorem permitted_step (h : service.Permitted) (action : ServiceAction) :
    (service.step action).Permitted := by
  cases action with
  | turn work polledAtMs transfers publishedAtMs pending written =>
    exact permitted_publish fun observed hobserved => pdActive_of_pdStatusObservation hobserved
  | busyTurn publishedAtMs pending written =>
    exact permitted_publish fun _ hobserved => nomatch hobserved
  | dutyWrite nowMs duty written =>
    intro hsome
    exact (HeaterPwmGate.expiresAtMs_setDutyCycle service.gate duty nowMs written).trans (h hsome)

theorem permitted_of_reaches {pwm : Option HeaterPwm} {actions : List ServiceAction}
    (hrun : Reaches Step (starting pwm) actions service) : service.Permitted := by
  have hstart : (starting pwm).Permitted := fun h => by cases h
  refine hrun.invariant hstart ?_
  rintro before action _ h rfl
  exact permitted_step h action

/-! ## What is reported -/

/-- A report is recent, and the permit that rests on a reported contract has not expired. -/
def ReportsFresh (service : PdService) (nowMs : ℕ) : Prop :=
  ((service.clientSnapshot nowMs).observation.isSome ∨
      (service.clientSnapshot nowMs).active.isSome →
    nowMs - service.snapshot.publishedAtMs ≤ pdSnapshotMaxAgeMs) ∧
  ((service.clientSnapshot nowMs).active.isSome →
    service.gate.expiresAtMs =
        UInt32.ofNat (saturatingAddU64 service.snapshot.publishedAtMs pdSnapshotMaxAgeMs) ∧
      nowMs ≤ service.snapshot.publishedAtMs + pdSnapshotMaxAgeMs)

/-- The last publication is recent, or carries an observation, or carries no contract. -/
def Reportable (service : PdService) (nowMs : ℕ) : Prop :=
  nowMs - service.snapshot.publishedAtMs ≤ pdSnapshotMaxAgeMs ∨
    service.snapshot.observation.isSome ∨ service.snapshot.active = none

theorem clientSnapshot_of_fresh (h : nowMs - service.snapshot.publishedAtMs ≤ pdSnapshotMaxAgeMs) :
    service.clientSnapshot nowMs = service.snapshot := by
  have hfresh : pdSnapshotIsFresh service.snapshot.publishedAtMs nowMs = true := decide_eq_true h
  unfold clientSnapshot PdServiceSnapshot.withFreshObservation
  cases service.snapshot.observation <;> simp [hfresh]

/-- An old publication is stripped where it carries an observation. -/
theorem clientSnapshot_of_old (h : ¬ nowMs - service.snapshot.publishedAtMs ≤ pdSnapshotMaxAgeMs) :
    (service.clientSnapshot nowMs).observation = none ∧
      (service.clientSnapshot nowMs).active =
        if service.snapshot.observation.isSome then none else service.snapshot.active := by
  have hold : pdSnapshotIsFresh service.snapshot.publishedAtMs nowMs = false := decide_eq_false h
  unfold clientSnapshot PdServiceSnapshot.withFreshObservation
  cases hobservation : service.snapshot.observation <;> simp [hold, hobservation]

theorem reportsFresh_iff_of_permitted (h : service.Permitted) :
    service.ReportsFresh nowMs ↔ service.Reportable nowMs := by
  by_cases hfresh : nowMs - service.snapshot.publishedAtMs ≤ pdSnapshotMaxAgeMs
  · refine ⟨fun _ => .inl hfresh, fun _ => ⟨fun _ => hfresh, fun hactive => ?_⟩⟩
    rw [clientSnapshot_of_fresh hfresh] at hactive
    exact ⟨h hactive, by omega⟩
  · obtain ⟨hobservation, hactive⟩ := clientSnapshot_of_old hfresh
    unfold ReportsFresh Reportable
    rw [hobservation, hactive]
    constructor
    · rintro ⟨hrecent, -⟩
      right
      by_contra hstale
      obtain ⟨hnone, hsome⟩ := not_or.mp hstale
      rw [if_neg hnone] at hrecent
      exact hfresh (hrecent (.inr (Option.isSome_iff_ne_none.mpr hsome)))
    · rintro (hrecent | hsome | hnone)
      · exact absurd hrecent hfresh
      · rw [if_pos hsome]
        exact ⟨fun hreported => by simp at hreported, fun hreported => nomatch hreported⟩
      · rw [hnone, ite_self]
        exact ⟨fun hreported => by simp at hreported, fun hreported => nomatch hreported⟩

/-- In every state of the service a report is recent just where the publication is. -/
theorem reportsFresh_iff (pwm : Option HeaterPwm) (actions : List ServiceAction)
    (service : PdService) (hrun : Reaches Step (starting pwm) actions service) (nowMs : ℕ) :
    service.ReportsFresh nowMs ↔ service.Reportable nowMs :=
  reportsFresh_iff_of_permitted (permitted_of_reaches hrun)

/-! ## A contract that outlives its permit -/

/-- 9 V is requested, and the bus is taken before the source has answered. -/
def preservingRun : List ServiceAction :=
  [.confirm,
    .turn [(10, .requestContract ⟨.fixed, 9000, 3000, false, none⟩ false ⟨true, true, true⟩)] 11
      (.receiving []) 12 none true,
    .busyTurn 13 none true]

/-- The run is long over, and the contract is still reported. -/
theorem not_reportsFresh : ∃ service, Reaches Step (starting none) preservingRun service ∧
    ¬ service.ReportsFresh 200 := by
  refine ⟨_, Reaches.of_foldl step (starting none) preservingRun, fun hfresh => ?_⟩
  have hreported : ((preservingRun.foldl step (starting none)).clientSnapshot 200).active.isSome =
    true := by decide +kernel
  have hold : ¬ 200 - (preservingRun.foldl step (starting none)).snapshot.publishedAtMs ≤
    pdSnapshotMaxAgeMs := by decide +kernel
  exact hold (hfresh.1 (.inr hreported))

/-- While the publication is recent the contract is reported with its permit. -/
theorem reportsFresh_preserved : ∃ service, Reaches Step (starting none) preservingRun service ∧
      (service.clientSnapshot 113).active.isSome = true ∧ service.ReportsFresh 113 := by
  have hrun := Reaches.of_foldl step (starting none) preservingRun
  refine ⟨_, hrun, by decide +kernel, (reportsFresh_iff none _ _ hrun 113).mpr (.inl ?_)⟩
  decide +kernel

end PdService

end FluxPurr.Pd
