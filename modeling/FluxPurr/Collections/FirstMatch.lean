import Mathlib.Data.List.Nodup

/-!
# Changing the first item that matches

`updateFirst p f` changes the first item of a list that satisfies `p`, and fails if there is
none.  If a key tells the items apart, the other items have other keys than the one it
changed (`nodup_split`), and the keys stay different as long as the new key is not that of
another item (`nodup_replace_iff`).
-/

namespace FluxPurr.Collections

variable {α κ : Type*}

def updateFirst (p : α → Bool) (f : α → α) : List α → Option (List α)
  | [] => none
  | a :: rest => if p a then some (f a :: rest) else (updateFirst p f rest).map (a :: ·)

theorem updateFirst_eq_none {p : α → Bool} {f : α → α} {items : List α} :
    updateFirst p f items = none ↔ ∀ a ∈ items, p a = false := by
  induction items with
  | nil => simp [updateFirst]
  | cons a rest ih =>
    rw [updateFirst]
    split
    · rename_i h
      simp [h]
    · rename_i h
      rw [Option.map_eq_none_iff, ih]
      simp [h]

/-- The item that was changed is the first match; what stands before and behind it stays. -/
theorem updateFirst_eq_some {p : α → Bool} {f : α → α} {items items' : List α}
    (h : updateFirst p f items = some items') :
    ∃ front a back, items = front ++ a :: back ∧ items.find? p = some a ∧
      items' = front ++ f a :: back := by
  induction items generalizing items' with
  | nil => cases h
  | cons a rest ih =>
    rw [updateFirst] at h
    split at h
    · rename_i hp
      exact ⟨[], a, rest, rfl, List.find?_cons_of_pos hp, (Option.some.inj h).symm⟩
    · rename_i hp
      obtain ⟨rest', hrest, rfl⟩ := Option.map_eq_some_iff.mp h
      obtain ⟨front, b, back, rfl, hfound, rfl⟩ := ih hrest
      exact ⟨a :: front, b, back, rfl, by rw [List.find?_cons_of_neg hp, hfound], rfl⟩

theorem nodup_split {key : α → κ} {front back : List α} {a : α} :
    ((front ++ a :: back).map key).Nodup ↔
      ((front ++ back).map key).Nodup ∧ ∀ b ∈ front ++ back, key b ≠ key a := by
  have hperm : List.Perm (front ++ a :: back) (a :: (front ++ back)) := List.perm_middle
  rw [(hperm.map key).nodup_iff, List.map_cons, List.nodup_cons, List.mem_map, and_comm]
  simp

/-- The keys are still different if the new one is not that of another item. -/
theorem nodup_replace_iff {key : α → κ} {front back : List α} {a a' : α}
    (h : ((front ++ a :: back).map key).Nodup) :
    ((front ++ a' :: back).map key).Nodup ↔ ∀ b ∈ front ++ back, key b ≠ key a' := by
  rw [nodup_split, and_iff_right (nodup_split.mp h).1]

end FluxPurr.Collections
