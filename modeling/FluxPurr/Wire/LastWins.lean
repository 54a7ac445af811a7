import Mathlib.Data.List.Basic
import Mathlib.Data.List.Induction

/-!
# Folds in which the last item wins

A decoder that folds over a run of elements often keeps, in one part of its state,
only what the last element of some kind has written.  `lastSome f items` is that
value, and `foldl_lastSome` says that a part of the state that every step either
overwrites or leaves alone holds it after the run.
-/

namespace FluxPurr.Wire

variable {α β γ σ : Type*}

/-- The value of `f` on the last item for which it has one. -/
def lastSome (f : α → Option β) (items : List α) : Option β := (items.filterMap f).getLast?

@[simp] theorem lastSome_nil (f : α → Option β) : lastSome f [] = none := rfl

theorem lastSome_append_singleton (f : α → Option β) (items : List α) (item : α) :
    lastSome f (items ++ [item]) = (f item).or (lastSome f items) := by
  unfold lastSome
  rw [List.filterMap_append, List.getLast?_append]
  cases h : f item with
  | none | some value => simp [h]

variable {items : List α}

theorem lastSome_of_getLast? {f : α → Option β} {value : β}
    (h : items.getLast?.bind f = some value) : lastSome f items = some value := by
  induction items using List.reverseRecOn with
  | nil => cases h
  | append_singleton items item ih =>
    rw [List.getLast?_concat] at h
    rw [lastSome_append_singleton, show f item = some value from h, Option.some_or]

theorem lastSome_map (f : α → Option β) (g : β → γ) (items : List α) :
    lastSome (fun item => (f item).map g) items = (lastSome f items).map g := by
  unfold lastSome
  rw [← List.map_filterMap, List.getLast?_map]

theorem lastSome_eq_none_iff {f : α → Option β} :
    lastSome f items = none ↔ ∀ item ∈ items, f item = none := by
  rw [lastSome, List.getLast?_eq_none_iff, List.filterMap_eq_nil_iff]

theorem lastSome_congr_of_none {f : α → Option β} {g g' : α → Option γ}
    (h : lastSome f items = none) (hagree : ∀ item, f item = none → g item = g' item) :
    lastSome g items = lastSome g' items := by
  have hnone := lastSome_eq_none_iff.mp h
  unfold lastSome
  rw [List.filterMap_congr fun item hitem => hagree item (hnone item hitem)]

/-- The value of a part of the state after a run, when a step overwrites it with
`f item` where `f` has a value and leaves it alone elsewhere. -/
theorem foldl_lastSome (step : σ → α → σ) (part : σ → β) (f : α → Option β)
    (h : ∀ state item, part (step state item) = (f item).getD (part state))
    (items : List α) (state : σ) :
    part (items.foldl step state) = (lastSome f items).getD (part state) := by
  induction items using List.reverseRecOn with
  | nil => rfl
  | append_singleton items item ih =>
    rw [List.foldl_append, List.foldl_cons, List.foldl_nil, h, ih, lastSome_append_singleton]
    cases f item <;> rfl

/-- A part of the state that only some items write, and how they write it. -/
theorem foldl_part {step : σ → α → σ} (part : σ → β) (classify : α → Option γ) (write : β → γ → β)
    (h : ∀ state item, part (step state item) =
      ((classify item).map (write (part state))).getD (part state))
    (items : List α) (state : σ) :
    part (items.foldl step state) = (items.filterMap classify).foldl write (part state) := by
  induction items generalizing state with
  | nil => rfl
  | cons item items ih =>
    rw [List.foldl_cons, ih, h]
    cases hitem : classify item with
    | none => simp [List.filterMap_cons_none hitem]
    | some written => simp [List.filterMap_cons_some hitem]

/-! ## The last item of two kinds -/

/-- The value of the last item that has one under `f` or under `g`, with the kind it
is of. -/
def lastEither (f : α → Option β) (g : α → Option γ) (items : List α) : Option (β ⊕ γ) :=
  lastSome (fun item => ((f item).map Sum.inl).or ((g item).map Sum.inr)) items

theorem lastSome_or (f : α → Option β) (g : α → Option γ) (written : γ → β) (items : List α) :
    lastSome (fun item => (f item).or ((g item).map written)) items =
      (lastEither f g items).map (Sum.elim id written) := by
  rw [lastEither, ← lastSome_map]
  congr 1
  funext item
  cases f item with
  | some value => rfl
  | none => cases g item <;> rfl

variable {f : α → Option β} {g : α → Option γ}

theorem lastSome_left_of_lastEither {value : β}
    (h : lastEither f g items = some (.inl value)) : lastSome f items = some value := by
  induction items using List.reverseRecOn with
  | nil => cases h
  | append_singleton items item ih =>
    unfold lastEither at h ih
    rw [lastSome_append_singleton] at h ⊢
    cases hf : f item with
    | some written =>
      rw [hf] at h
      simpa using h
    | none =>
      cases hg : g item with
      | some written => simp [hf, hg] at h
      | none =>
        simp only [hf, hg, Option.map_none, Option.or_none, Option.none_or] at h ⊢
        exact ih h

theorem lastSome_right_of_lastEither {value : γ}
    (h : lastEither f g items = some (.inr value)) : lastSome g items = some value := by
  induction items using List.reverseRecOn with
  | nil => cases h
  | append_singleton items item ih =>
    unfold lastEither at h ih
    rw [lastSome_append_singleton] at h ⊢
    cases hf : f item with
    | some written => simp [hf] at h
    | none =>
      cases hg : g item with
      | some written => simpa [hf, hg] using h
      | none =>
        simp only [hf, hg, Option.map_none, Option.or_none, Option.none_or] at h ⊢
        exact ih h

theorem lastEither_eq_none (h : lastEither f g items = none) :
    lastSome f items = none ∧ lastSome g items = none := by
  have hnone := lastSome_eq_none_iff.mp h
  have hitem : ∀ item ∈ items, f item = none ∧ g item = none := by
    intro item hmem
    simpa using hnone item hmem
  exact ⟨lastSome_eq_none_iff.mpr fun item hmem => (hitem item hmem).1,
    lastSome_eq_none_iff.mpr fun item hmem => (hitem item hmem).2⟩

end FluxPurr.Wire
