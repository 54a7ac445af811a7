import FluxPurr.Runs.Reaches

/-!
# What holds of every step of a run

`Throughout step Holds state actions` says that `Holds` is true of every step that the actions
lead to from `state`.  Two such properties are the same for a run if they are the same for each
step from a state with an invariant (`throughout_congr`), and the invariant need only be kept by
the steps that have the property.
-/

namespace FluxPurr.Runs

variable {State Action : Type*}

/-- Every step has the property.  A run that stops early has no further steps. -/
def Throughout (step : State → Action → Option State) (Holds : State → Action → Prop) :
    State → List Action → Prop
  | _, [] => True
  | state, action :: actions =>
      Holds state action ∧
        ∀ next, step state action = some next → Throughout step Holds next actions

variable {step : State → Action → Option State} {Holds Holds' : State → Action → Prop}
  {Inv : State → Prop} {state : State} {action : Action} {actions : List Action}

@[simp] theorem throughout_nil : Throughout step Holds state [] := trivial

theorem throughout_cons : Throughout step Holds state (action :: actions) ↔ Holds state action ∧
        ∀ next, step state action = some next → Throughout step Holds next actions := Iff.rfl

/-- The property holds of the step that the run takes after its first actions. -/
theorem Throughout.holds_after {front rest : List Action} {state' : State}
    (h : Throughout step Holds state (front ++ action :: rest))
    (hrun : front.foldlM step state = some state') : Holds state' action := by
  induction front generalizing state with
  | nil =>
    obtain rfl : state = state' := Option.some.inj hrun
    exact h.1
  | cons first front ih =>
    rw [List.foldlM_cons] at hrun
    obtain ⟨next, hnext, hrest⟩ := Option.bind_eq_some_iff.mp hrun
    exact ih (h.2 next hnext) hrest

/-- What a property of the steps gives for each step from an invariant state, it gives for a
run. -/
theorem Throughout.of_invariant (hstart : Inv state)
    (hstep : ∀ state action, Inv state → Holds state action →
      Holds' state action ∧ ∀ next, step state action = some next → Inv next)
    (h : Throughout step Holds state actions) : Throughout step Holds' state actions := by
  induction actions generalizing state with
  | nil => exact trivial
  | cons action actions ih =>
    obtain ⟨hfirst, hrest⟩ := h
    obtain ⟨hholds, hkeep⟩ := hstep state action hstart hfirst
    exact ⟨hholds, fun next hnext => ih (hkeep next hnext) (hrest next hnext)⟩

/-- Properties that every step of an invariant state has alike are the same for a run. -/
theorem throughout_congr (hstart : Inv state)
    (hiff : ∀ state action, Inv state → (Holds state action ↔ Holds' state action))
    (hkeep : ∀ state action next, Inv state → Holds state action →
      step state action = some next → Inv next) :
    Throughout step Holds state actions ↔ Throughout step Holds' state actions := by
  induction actions generalizing state with
  | nil => exact Iff.rfl
  | cons action actions ih =>
    rw [throughout_cons, throughout_cons, ← hiff state action hstart]
    apply and_congr_right
    intro hholds
    apply forall_congr'
    intro next
    apply imp_congr_right
    intro hnext
    exact ih (hkeep state action next hstart hholds hnext)

end FluxPurr.Runs
