import Mathlib.Order.Interval.Finset.Nat

/-!
# Selecting indices

Two loops that select some of the indices of a sequence.

`walkTo p stop start` is the first index from `start` on that satisfies `p`, or `stop`.  A walk to a
stronger condition may begin where the walk to a weaker one has ended (`walkTo_walkTo`), so that one
cursor that moves on from target to target finds for each of them what a walk of its own would find.

`fillUntil target` adds the items of a list to a set until `target` items are selected.  An item of
the list is added as long as the items before it leave room (`mem_fillUntil`).
-/

namespace FluxPurr.Collections

/-! ## Walking -/

/-- The walk, with the number of indices before its end. -/
def walk (p : ℕ → Bool) : ℕ → ℕ → ℕ
  | 0, cursor => cursor
  | fuel + 1, cursor => if p cursor then cursor else walk p fuel (cursor + 1)

/-- The first index from `cursor` on that satisfies `p`, or `stop`. -/
def walkTo (p : ℕ → Bool) (stop cursor : ℕ) : ℕ := walk p (stop - cursor) cursor

section Walk

variable {p q : ℕ → Bool} {stop cursor index : ℕ}

theorem walk_spec (fuel cursor : ℕ) :
    cursor ≤ walk p fuel cursor ∧ walk p fuel cursor ≤ cursor + fuel ∧
      (walk p fuel cursor < cursor + fuel → p (walk p fuel cursor) = true) ∧
      ∀ index, cursor ≤ index → index < walk p fuel cursor → p index = false := by
  induction fuel generalizing cursor with
  | zero =>
    refine ⟨Nat.le_refl _, Nat.le_refl _, fun h => absurd h (Nat.lt_irrefl _), ?_⟩
    intro index hle hlt
    exact absurd hlt (Nat.not_lt.mpr hle)
  | succ fuel ih =>
    rw [walk]
    split_ifs with hp
    · refine ⟨Nat.le_refl _, Nat.le_add_right _ _, fun _ => hp, ?_⟩
      intro index hle hlt
      exact absurd hlt (Nat.not_lt.mpr hle)
    · obtain ⟨hge, hle, hreached, hbefore⟩ := ih (cursor + 1)
      refine ⟨by omega, by omega, fun hlt => hreached (by omega), ?_⟩
      intro index hfrom hlt
      rcases Nat.eq_or_lt_of_le hfrom with rfl | hlater
      · simpa using hp
      · exact hbefore index hlater hlt

theorem le_walkTo : cursor ≤ walkTo p stop cursor := (walk_spec _ _).1

theorem walkTo_le (h : cursor ≤ stop) : walkTo p stop cursor ≤ stop := by
  have hle := (@walk_spec p (stop - cursor) cursor).2.1
  unfold walkTo
  omega

/-- Short of the end, a walk stops at an index that satisfies its condition. -/
theorem walkTo_reached (h : walkTo p stop cursor < stop) : p (walkTo p stop cursor) = true := by
  have hle : cursor ≤ walkTo p stop cursor := le_walkTo
  apply (walk_spec _ _).2.2.1
  unfold walkTo at h hle
  omega

theorem eq_false_of_lt_walkTo (hfrom : cursor ≤ index) (hlt : index < walkTo p stop cursor) :
    p index = false :=
  (walk_spec _ _).2.2.2 index hfrom hlt

theorem walkTo_eq (hfrom : cursor ≤ index) (hle : index ≤ stop)
    (hreached : index < stop → p index = true)
    (hbefore : ∀ earlier, cursor ≤ earlier → earlier < index → p earlier = false) :
    walkTo p stop cursor = index := by
  have hcursor : cursor ≤ walkTo p stop cursor := le_walkTo
  have hstop : walkTo p stop cursor ≤ stop := walkTo_le (Nat.le_trans hfrom hle)
  rcases Nat.lt_trichotomy (walkTo p stop cursor) index with hlt | heq | hgt
  · have htrue := @walkTo_reached p _ _ (Nat.lt_of_lt_of_le hlt hle)
    rw [hbefore _ hcursor hlt] at htrue
    cases htrue
  · exact heq
  · have hfalse := @eq_false_of_lt_walkTo p _ _ _ hfrom hgt
    rw [hreached (by omega)] at hfalse
    cases hfalse

/-- A walk may begin where the walk to a weaker condition has ended. -/
theorem walkTo_walkTo (h : cursor ≤ stop) (hweaker : ∀ index, q index = true → p index = true) :
    walkTo q stop (walkTo p stop cursor) = walkTo q stop cursor := by
  have hle : walkTo p stop cursor ≤ stop := walkTo_le h
  symm
  apply walkTo_eq
  · exact Nat.le_trans le_walkTo le_walkTo
  · exact walkTo_le hle
  · exact walkTo_reached
  · intro earlier hfrom hlt
    rcases Nat.lt_or_ge earlier (walkTo p stop cursor) with hpassed | hlater
    · have hfalse := eq_false_of_lt_walkTo hfrom hpassed
      cases hq : q earlier with
      | false => rfl
      | true => exact absurd (hfalse.symm.trans (hweaker earlier hq)) (by decide)
    · exact eq_false_of_lt_walkTo hlater hlt

end Walk

/-! ## Filling -/

section Fill

variable {α : Type*} [DecidableEq α] {target selected : ℕ} {kept : Finset α} {items : List α}

/-- Adds the items that are not kept yet, until the target number is selected. -/
def fillUntil (target : ℕ) : List α → Finset α × ℕ → Finset α × ℕ
  | [], state => state
  | item :: rest, (kept, selected) =>
      let state := if item ∈ kept then (kept, selected) else (insert item kept, selected + 1)
      if state.2 = target then state else fillUntil target rest state

theorem fillUntil_of_mem {item : α} (h : item ∈ kept) (hlt : selected < target) :
    fillUntil target (item :: items) (kept, selected) =
      fillUntil target items (kept, selected) := by
  rw [fillUntil]
  simp only [h, if_true]
  rw [if_neg (Nat.ne_of_lt hlt)]

theorem fillUntil_of_not_mem {item : α} (h : item ∉ kept) :
    fillUntil target (item :: items) (kept, selected) =
      if selected + 1 = target then (insert item kept, selected + 1)
      else fillUntil target items (insert item kept, selected + 1) := by
  rw [fillUntil]
  simp only [h, if_false]

theorem card_fillUntil (items : List α) (kept : Finset α) (selected : ℕ) :
    (fillUntil target items (kept, selected)).1.card + selected =
      kept.card + (fillUntil target items (kept, selected)).2 := by
  induction items generalizing kept selected with
  | nil => rfl
  | cons item rest ih =>
    rw [fillUntil]
    by_cases hmem : item ∈ kept
    · simp only [hmem, if_true]
      split_ifs
      · rfl
      · exact ih kept selected
    · simp only [hmem, if_false]
      have hcard := Finset.card_insert_of_notMem hmem
      split_ifs
      · dsimp only
        omega
      · have hrest := ih (insert item kept) (selected + 1)
        omega

theorem card_toFinset_cons_of_mem {item : α} (h : item ∈ kept) :
    ((item :: items).toFinset \ kept).card = (items.toFinset \ kept).card := by
  rw [List.toFinset_cons, Finset.insert_sdiff_of_mem _ h]

theorem card_toFinset_cons_of_not_mem {item : α} (h : item ∉ kept) :
    ((item :: items).toFinset \ kept).card =
      (items.toFinset \ insert item kept).card + 1 := by
  have hsame : insert item (items.toFinset \ kept) =
      insert item (items.toFinset \ insert item kept) := by
    ext x
    simp only [Finset.mem_insert, Finset.mem_sdiff, not_or]
    tauto
  rw [List.toFinset_cons, Finset.insert_sdiff_of_notMem _ h, hsame]
  exact Finset.card_insert_of_notMem (by simp)

/-- As many items are selected as there are, up to the target. -/
theorem selected_fillUntil (h : selected < target) :
    (fillUntil target items (kept, selected)).2 =
      min target (selected + (items.toFinset \ kept).card) := by
  induction items generalizing kept selected with
  | nil =>
    simp only [fillUntil, List.toFinset_nil, Finset.empty_sdiff, Finset.card_empty]
    omega
  | cons item rest ih =>
    by_cases hmem : item ∈ kept
    · rw [fillUntil_of_mem hmem h, ih h, card_toFinset_cons_of_mem hmem]
    · rw [fillUntil_of_not_mem hmem, card_toFinset_cons_of_not_mem hmem]
      split_ifs with hfull
      · dsimp only
        omega
      · rw [ih (by omega)]
        omega

/-- An item of the list is added if the items before it leave room for it. -/
theorem mem_fillUntil {x : α} (h : selected < target) :
    x ∈ (fillUntil target items (kept, selected)).1 ↔
      x ∈ kept ∨ ∃ index, items[index]? = some x ∧
        selected + ((items.take index).toFinset \ kept).card < target := by
  induction items generalizing kept selected with
  | nil => simp [fillUntil]
  | cons item rest ih =>
    by_cases hmem : item ∈ kept
    · rw [fillUntil_of_mem hmem h, ih h]
      constructor
      · rintro (hkept | ⟨index, hindex, hroom⟩)
        · exact .inl hkept
        · refine .inr ⟨index + 1, hindex, ?_⟩
          rwa [List.take_succ_cons, card_toFinset_cons_of_mem hmem]
      · rintro (hkept | ⟨index, hindex, hroom⟩)
        · exact .inl hkept
        · cases index with
          | zero =>
            obtain rfl := Option.some.inj hindex
            exact .inl hmem
          | succ index =>
            refine .inr ⟨index, hindex, ?_⟩
            rwa [List.take_succ_cons, card_toFinset_cons_of_mem hmem] at hroom
    · have hfirst : (∃ index, (item :: rest)[index]? = some x ∧
          selected + (((item :: rest).take index).toFinset \ kept).card < target) ↔
            x = item ∨ ∃ index, rest[index]? = some x ∧
              selected + 1 + ((rest.take index).toFinset \ insert item kept).card < target := by
        constructor
        · rintro ⟨index, hindex, hroom⟩
          cases index with
          | zero => exact .inl (Option.some.inj hindex).symm
          | succ index =>
            rw [List.take_succ_cons, card_toFinset_cons_of_not_mem hmem] at hroom
            exact .inr ⟨index, hindex, by omega⟩
        · rintro (rfl | ⟨index, hindex, hroom⟩)
          · exact ⟨0, rfl, by simpa using h⟩
          · refine ⟨index + 1, hindex, ?_⟩
            rw [List.take_succ_cons, card_toFinset_cons_of_not_mem hmem]
            omega
      rw [fillUntil_of_not_mem hmem, hfirst, ← or_assoc, @or_comm (x ∈ kept), ← Finset.mem_insert]
      split_ifs with hfull
      · constructor
        · exact .inl
        · rintro (hkept | ⟨index, -, hroom⟩)
          · exact hkept
          · omega
      · exact ih (by omega)

end Fill

end FluxPurr.Collections
