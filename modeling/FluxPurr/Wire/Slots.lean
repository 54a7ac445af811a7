import Mathlib.Data.List.ReduceOption
import Mathlib.Data.Vector.Basic

/-!
# Fixed arrays filled from the front

A record stores a count and that many items; in memory the items live in an
array of fixed size whose remaining slots hold a blank value.  `fillSlots`
rebuilds the array from the stored items, and `fillSlots_take` says when nothing
is lost: the slots past the count must have been blank.

Where the array holds optional items, `present` lists the ones that are there and
`packSlots` moves a list of items to the front of an array.

The items of a record are decoded one by one with `List.mapM`, which fails as
soon as one of them does; the last section says what a success means.
-/

namespace FluxPurr.Wire

variable {α β : Type*}

/-- The array of size `n` that starts with `items` and is blank after them. -/
def fillSlots (blank : α) (n : ℕ) (items : List α) : Vector α n :=
  Vector.ofFn fun i => items.getD i blank

variable {n : ℕ} {items : List α}

theorem getElem_fillSlots (blank : α) (items : List α) {i : ℕ} (hi : i < n) :
    (fillSlots blank n items)[i] = items.getD i blank := by
  simp [fillSlots]

theorem toList_fillSlots (blank : α) (h : items.length ≤ n) :
    (fillSlots blank n items).toList = items ++ List.replicate (n - items.length) blank := by
  apply List.ext_getElem
  · simp only [Vector.length_toList, List.length_append, List.length_replicate]
    omega
  · intro i hi _
    have hin : i < n := by simpa using hi
    rw [Vector.getElem_toList, getElem_fillSlots _ _ hin, List.getD_eq_getElem?_getD]
    by_cases hitem : i < items.length
    · rw [List.getElem_append_left hitem, List.getElem?_eq_getElem hitem, Option.getD_some]
    · rw [List.getElem_append_right (by omega), List.getElem_replicate,
        List.getElem?_eq_none (by omega), Option.getD_none]

/-- An array is rebuilt from its first `count` items exactly when the rest of it
is blank. -/
theorem fillSlots_take_iff {blank : α} (slots : Vector α n) {count : ℕ} (h : count ≤ n) :
    fillSlots blank n (slots.toList.take count) = slots ↔
      ∀ item ∈ slots.toList.drop count, item = blank := by
  have hlen : (slots.toList.take count).length = count := by simp [h]
  have hsplit : slots.toList = slots.toList.take count ++ slots.toList.drop count :=
    (List.take_append_drop count slots.toList).symm
  have hdrop : (slots.toList.drop count).length = n - count := by simp
  rw [← Vector.toList_inj, toList_fillSlots blank (by omega), hlen]
  constructor
  · intro heq item hitem
    have hrest := List.append_cancel_left (heq.trans hsplit)
    rw [← hrest] at hitem
    exact List.eq_of_mem_replicate hitem
  · intro hblank
    have hrest : slots.toList.drop count = List.replicate (n - count) blank :=
      List.eq_replicate_iff.mpr ⟨hdrop, hblank⟩
    conv_rhs => rw [hsplit, hrest]

/-! ## Arrays of optional items -/

/-- The items that are there, in order. -/
def present (slots : Vector (Option α) n) : List α := slots.toList.reduceOption

/-- The first `n` items, packed to the front of an array of `n` slots. -/
def packSlots (n : ℕ) (items : List α) : Vector (Option α) n := fillSlots none n (items.map some)

theorem length_present_le (slots : Vector (Option α) n) : (present slots).length ≤ n := by
  have hle := List.reduceOption_length_le slots.toList
  rwa [Vector.length_toList] at hle

theorem mem_present {slots : Vector (Option α) n} {item : α} :
    item ∈ present slots ↔ some item ∈ slots.toList := List.reduceOption_mem_iff

theorem toList_packSlots (h : items.length ≤ n) :
    (packSlots n items).toList = items.map some ++ List.replicate (n - items.length) none := by
  rw [packSlots, toList_fillSlots none (by rwa [List.length_map]), List.length_map]

theorem present_packSlots (h : items.length ≤ n) : present (packSlots n items) = items := by
  rw [present, toList_packSlots h, List.reduceOption_append, List.reduceOption_replicate_none,
    List.append_nil, List.reduceOption, List.filterMap_map]
  exact List.filterMap_some

/-! ## Decoding items one by one -/

theorem mapM_eq_some_map {f : α → Option β} {g : α → β}
    (h : ∀ item ∈ items, f item = some (g item)) : items.mapM f = some (items.map g) := by
  induction items with
  | nil => rfl
  | cons head tail ih =>
    have htail : tail.mapM f = some (tail.map g) := ih fun item hitem => h item (by simp [hitem])
    simp [List.mapM_cons, h head (by simp), htail]

theorem mapM_range {f : ℕ → Option β} {g : α → Option β}
    (h : ∀ index (hindex : index < items.length), f index = g items[index]) :
    (List.range items.length).mapM f = items.mapM g := by
  induction items generalizing f with
  | nil => rfl
  | cons head tail ih =>
    have hhead : f 0 = g head := h 0 (by simp)
    have htail : (List.range tail.length).mapM (fun index => f (index + 1)) = tail.mapM g := by
      apply ih
      intro index hindex
      exact h (index + 1) (by simpa using hindex)
    rw [List.length_cons, List.range_succ_eq_map, List.mapM_cons, List.mapM_map,
      List.mapM_cons, hhead, ← htail]
    rfl

theorem exists_of_mapM_eq_some {f : α → Option β} {sources : List α} {items : List β}
    (h : sources.mapM f = some items) :
    ∀ item ∈ items, ∃ source ∈ sources, f source = some item := by
  induction sources generalizing items with
  | nil =>
    obtain rfl : items = [] := by simpa using h.symm
    simp
  | cons head tail ih =>
    rw [List.mapM_cons] at h
    obtain ⟨first, hfirst, h⟩ := Option.bind_eq_some_iff.mp h
    obtain ⟨rest, hrest, h⟩ := Option.bind_eq_some_iff.mp h
    obtain rfl : first :: rest = items := by simpa using h
    intro item hitem
    rcases List.mem_cons.mp hitem with rfl | hin
    · exact ⟨head, by simp, hfirst⟩
    · obtain ⟨source, hsource, hdecode⟩ := ih hrest item hin
      exact ⟨source, by simp [hsource], hdecode⟩

theorem length_of_mapM_eq_some {f : α → Option β} {sources : List α} {items : List β}
    (h : sources.mapM f = some items) : items.length = sources.length := by
  induction sources generalizing items with
  | nil =>
    obtain rfl : items = [] := by simpa using h.symm
    rfl
  | cons head tail ih =>
    rw [List.mapM_cons] at h
    obtain ⟨first, hfirst, h⟩ := Option.bind_eq_some_iff.mp h
    obtain ⟨rest, hrest, h⟩ := Option.bind_eq_some_iff.mp h
    obtain rfl : first :: rest = items := by simpa using h
    rw [List.length_cons, List.length_cons, ih hrest]

end FluxPurr.Wire
