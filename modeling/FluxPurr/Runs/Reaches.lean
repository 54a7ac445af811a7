import Mathlib.Data.List.Induction

/-!
# Runs of a transition system

A transition system is a relation `next state action state'`.  `Reaches` is what it
can do in finitely many steps, with the actions that were taken.  Everything about
runs follows from one step at a time: an invariant holds in every state of a run
(`Reaches.invariant`), and what allows more steps allows more runs (`Reaches.mono`).
-/

namespace FluxPurr.Runs

variable {State Action : Type*}

/-- The actions, in order, lead from `start` to the last state. -/
inductive Reaches (next : State → Action → State → Prop) (start : State) :
    List Action → State → Prop
  | refl : Reaches next start [] start
  | step {actions : List Action} {state state' : State} {action : Action} :
      Reaches next start actions state → next state action state' →
        Reaches next start (actions ++ [action]) state'

namespace Reaches

variable {next : State → Action → State → Prop} {start : State}

/-- What holds at the start and is preserved by every step holds in every state of a
run. -/
theorem invariant {Inv : State → Prop} (hstart : Inv start)
    (hstep : ∀ state action state', Inv state → next state action state' → Inv state')
    {actions : List Action} {state : State} (h : Reaches next start actions state) :
    Inv state := by
  induction h with
  | refl => exact hstart
  | step _ hnext ih => exact hstep _ _ _ ih hnext

theorem mono {next' : State → Action → State → Prop}
    (hnext : ∀ state action state', next state action state' → next' state action state')
    {actions : List Action} {state : State} (h : Reaches next start actions state) :
    Reaches next' start actions state := by
  induction h with
  | refl => exact .refl
  | step _ hstep ih => exact .step ih (hnext _ _ _ hstep)

theorem split {front rest : List Action} {action : Action} {state : State}
    (h : Reaches next start (front ++ action :: rest) state) :
    ∃ before after, Reaches next start front before ∧ next before action after := by
  induction rest using List.reverseRecOn generalizing state with
  | nil =>
    generalize hactions : front ++ [action] = actions at h
    cases h with
    | refl => exact absurd hactions (by simp)
    | step hreaches hnext =>
      obtain ⟨rfl, hlast⟩ := List.append_inj' hactions rfl
      obtain rfl := List.singleton_inj.mp hlast
      exact ⟨_, _, hreaches, hnext⟩
  | append_singleton rest last ih =>
    generalize hactions : front ++ action :: (rest ++ [last]) = actions at h
    cases h with
    | refl => exact absurd hactions (by simp)
    | step hreaches _ =>
      rw [← List.cons_append, ← List.append_assoc] at hactions
      obtain ⟨hfront, -⟩ := List.append_inj' hactions rfl
      exact ih (hfront ▸ hreaches)

theorem of_foldl (step : State → Action → State) (start : State) (actions : List Action) :
    Reaches (fun state action after => after = step state action) start actions
      (actions.foldl step start) := by
  induction actions using List.reverseRecOn with
  | nil => exact .refl
  | append_singleton actions action ih =>
    rw [List.foldl_append]
    exact .step ih rfl

theorem of_foldlM {step : State → Action → Option State} {start : State}
    {actions : List Action} {state : State} (h : actions.foldlM step start = some state) :
    Reaches (fun state action after => step state action = some after) start actions state := by
  induction actions using List.reverseRecOn generalizing state with
  | nil =>
    obtain rfl : start = state := Option.some.inj h
    exact .refl
  | append_singleton actions action ih =>
    rw [List.foldlM_append] at h
    obtain ⟨before, hbefore, hlast⟩ := Option.bind_eq_some_iff.mp h
    obtain ⟨after, hstep, hafter⟩ := Option.bind_eq_some_iff.mp hlast
    obtain rfl : after = state := Option.some.inj hafter
    exact .step (ih hbefore) hstep

end Reaches

end FluxPurr.Runs
