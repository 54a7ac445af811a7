import FluxPurr.Thermal.TransientTrace

/-!
# Which places of a stretch are marked

A compaction gives the samples of the powered stretch some slots.  The walk marks the places at
which it stops (`stops`), and the slots that it leaves go to the even places, in order.
`InStretch` says of each place whether it gets a slot, in terms of the readings, and
`mem_markTraceIndicesByTemperature` says that the three loops compute just that.  The last place
gets a slot if the readings have risen to it, or if the walk stops at even places only
(`inStretch_stop_iff`).
-/

namespace FluxPurr.Thermal

open FluxPurr.Collections FluxPurr.Memory

/-! ## Places -/

section Places

variable {start stop slots slot : ℕ}

/-- The places of the first slots when they are given out evenly. -/
def evens (start stop slots count : ℕ) : Finset ℕ :=
  (Finset.range count).image (evenIndex start stop slots)

theorem evenIndex_lt {later : ℕ} (hfit : slots ≤ stop - start + 1) (hlt : slot < later)
    (hlater : later < slots) :
    evenIndex start stop slots slot < evenIndex start stop slots later := by
  have hslots : slots ≠ 1 := by omega
  have hpos : 0 < slots - 1 := by omega
  have hstep : slot * (stop - start) + (slots - 1) ≤ later * (stop - start) := by
    calc slot * (stop - start) + (slots - 1)
        ≤ slot * (stop - start) + (stop - start) := by omega
      _ = (slot + 1) * (stop - start) := by ring
      _ ≤ later * (stop - start) := Nat.mul_le_mul_right _ hlt
  have hdiv := Nat.div_le_div_right (c := slots - 1) hstep
  rw [Nat.add_div_right _ hpos] at hdiv
  unfold evenIndex
  rw [if_neg hslots, if_neg hslots]
  omega

theorem le_evenIndex (h : start ≤ stop) : start ≤ evenIndex start stop slots slot := by
  unfold evenIndex
  split_ifs
  · exact h
  · exact Nat.le_add_right _ _

theorem evenIndex_le (h : start ≤ stop) (hslot : slot < slots) :
    evenIndex start stop slots slot ≤ stop := by
  unfold evenIndex
  split_ifs with hone
  · exact Nat.le_refl _
  · have hle : slot * (stop - start) / (slots - 1) ≤ stop - start := by
      apply Nat.div_le_of_le_mul
      exact Nat.mul_le_mul_right _ (by omega)
    omega

theorem evenIndex_last (h : start ≤ stop) (hslots : 0 < slots) :
    evenIndex start stop slots (slots - 1) = stop := by
  unfold evenIndex
  split_ifs with hone
  · rfl
  · rw [Nat.mul_div_cancel_left _ (by omega)]
    omega

theorem card_evens {count : ℕ} (hfit : slots ≤ stop - start + 1) (hcount : count ≤ slots) :
    (evens start stop slots count).card = count := by
  unfold evens
  rw [Finset.card_image_of_injOn, Finset.card_range]
  intro slot hslot later hlater heq
  simp only [Finset.coe_range, Set.mem_Iio] at hslot hlater
  rcases Nat.lt_trichotomy slot later with hlt | hsame | hgt
  · exact absurd heq (Nat.ne_of_lt (evenIndex_lt hfit hlt (by omega)))
  · exact hsame
  · exact absurd heq (Nat.ne_of_gt (evenIndex_lt hfit hgt (by omega)))

end Places

/-! ## The walk -/

section Walk

variable (samples : List ThermalPlantTransientSample) (start stop slots : ℕ)

/-- The first sample of the stretch that has reached the target of a slot, or its last one. -/
def stopAt (slot : ℕ) : ℕ :=
  walkTo (fun index =>
    targetRaw (rawAt samples start) (rawAt samples stop) slots slot ≤ rawAt samples index)
    stop start

/-- The places at which the walk stops. -/
def stops : Finset ℕ := (Finset.range slots).image (stopAt samples start stop slots)

/-- The places of the stretch that get a slot. -/
def InStretch (index : ℕ) : Prop :=
  index ∈ stops samples start stop slots ∨
    ∃ slot < slots, evenIndex start stop slots slot = index ∧
      (stops samples start stop slots ∪ evens start stop slots slot).card < slots

variable {samples start stop slots}

theorem targetRaw_mono {firstRaw lastRaw slot later : ℕ} (hle : slot ≤ later) :
    targetRaw firstRaw lastRaw slots slot ≤ targetRaw firstRaw lastRaw slots later := by
  unfold targetRaw
  split_ifs
  · exact Nat.le_refl _
  · exact Nat.add_le_add_left (Nat.div_le_div_right (Nat.mul_le_mul_right _ hle)) _

/-- The cursor finds for each slot what a walk of its own would find. -/
theorem foldl_markTarget (h : start ≤ stop) (keep : Finset ℕ) (count : ℕ) :
    let state := (List.range count).foldl (markTarget samples start stop slots) (start, keep)
    state.2 = keep ∪ (Finset.range count).image (stopAt samples start stop slots) ∧
      ∀ slot, count ≤ slot →
        walkTo (fun index =>
          targetRaw (rawAt samples start) (rawAt samples stop) slots slot ≤ rawAt samples index)
          stop state.1 = stopAt samples start stop slots slot := by
  induction count with
  | zero => exact ⟨by simp, fun slot _ => rfl⟩
  | succ count ih =>
    obtain ⟨hkeep, hcursor⟩ := ih
    simp only [List.range_succ, List.foldl_append, List.foldl_cons, List.foldl_nil]
    constructor
    · simp only [markTarget]
      rw [hcursor count (Nat.le_refl _), hkeep, Finset.range_add_one, Finset.image_insert,
        Finset.union_insert]
    · intro slot hslot
      simp only [markTarget]
      rw [hcursor count (Nat.le_refl _)]
      apply walkTo_walkTo h
      intro index hreached
      have hmono := @targetRaw_mono slots (rawAt samples start) (rawAt samples stop) count slot
        (by omega)
      simp only [decide_eq_true_eq] at hreached ⊢
      exact hmono.trans hreached

theorem stops_subset (h : start ≤ stop) :
    stops samples start stop slots ⊆ Finset.Icc start stop := by
  intro index hindex
  obtain ⟨slot, -, rfl⟩ := Finset.mem_image.mp hindex
  exact Finset.mem_Icc.mpr ⟨le_walkTo, walkTo_le h⟩

theorem stopAt_zero (hone : slots = 1 → start = stop) :
    stopAt samples start stop slots 0 = start := by
  have hreached : targetRaw (rawAt samples start) (rawAt samples stop) slots 0 ≤
      rawAt samples start := by
    unfold targetRaw
    split_ifs with hslots
    · rw [hone hslots]
    · simp
  rcases Nat.lt_or_ge start stop with hlt | hge
  · apply walkTo_eq (Nat.le_refl _) hlt.le
    · intro _
      simpa using hreached
    · intro earlier hfrom hbefore
      omega
  · unfold stopAt walkTo
    rw [Nat.sub_eq_zero_of_le hge]
    rfl

theorem start_mem_stops (hpos : 0 < slots) (hone : slots = 1 → start = stop) :
    start ∈ stops samples start stop slots :=
  Finset.mem_image.mpr ⟨0, Finset.mem_range.mpr hpos, stopAt_zero hone⟩

theorem card_stops_union_evens {count : ℕ} (h : start ≤ stop) (hpos : 0 < slots)
    (hone : slots = 1 → start = stop) (hcount : count ≤ slots) :
    (stops samples start stop slots).card +
        ((((List.range slots).map (evenIndex start stop slots)).take count).toFinset \
          ({0} ∪ stops samples start stop slots)).card =
      (stops samples start stop slots ∪ evens start stop slots count).card := by
  have hevens : (((List.range slots).map (evenIndex start stop slots)).take count).toFinset =
      evens start stop slots count := by
    ext index
    simp only [← List.map_take, List.take_range, Nat.min_eq_left hcount, List.mem_toFinset,
      List.mem_map, List.mem_range, evens, Finset.mem_image, Finset.mem_range]
  have hzero : evens start stop slots count \ ({0} ∪ stops samples start stop slots) =
      evens start stop slots count \ stops samples start stop slots := by
    ext index
    simp only [Finset.mem_sdiff, Finset.mem_union, Finset.mem_singleton, not_or]
    constructor
    · rintro ⟨heven, -, hstop⟩
      exact ⟨heven, hstop⟩
    · rintro ⟨heven, hstop⟩
      refine ⟨heven, ?_, hstop⟩
      -- only the first place of the stretch can be the first of the trace, and the walk stops there
      rintro rfl
      obtain ⟨slot, -, hslot⟩ := Finset.mem_image.mp heven
      obtain rfl : start = 0 := Nat.le_zero.mp (hslot ▸ le_evenIndex h)
      exact hstop (start_mem_stops hpos hone)
  rw [hevens, hzero, Nat.add_comm, Finset.card_sdiff_add_card, Finset.union_comm]

/-- The even places fill every slot, so that the round over all places has nothing to add. -/
theorem markTraceIndicesByTemperature_eq (h : start ≤ stop) (hpos : 0 < slots)
    (hfit : slots ≤ stop - start + 1) (hone : slots = 1 → start = stop) :
    markTraceIndicesByTemperature samples {0} start stop slots =
      if (stops samples start stop slots).card < slots then
        (fillUntil slots ((List.range slots).map (evenIndex start stop slots))
          ({0} ∪ stops samples start stop slots, (stops samples start stop slots).card)).1
      else {0} ∪ stops samples start stop slots := by
  have hkeep := (@foldl_markTarget samples start stop slots h {0} slots).1
  have hselected : (Finset.Icc start stop).filter
      (· ∈ {0} ∪ stops samples start stop slots) = stops samples start stop slots := by
    ext index
    simp only [Finset.mem_filter, Finset.mem_union, Finset.mem_singleton, Finset.mem_Icc]
    constructor
    · rintro ⟨⟨hge, -⟩, rfl | hstop⟩
      · obtain rfl : start = 0 := Nat.le_zero.mp hge
        exact start_mem_stops hpos hone
      · exact hstop
    · intro hstop
      exact ⟨Finset.mem_Icc.mp (stops_subset h hstop), .inr hstop⟩
  unfold markTraceIndicesByTemperature
  simp only [Nat.min_eq_left hfit, Nat.pos_iff_ne_zero.mp hpos, if_false, hkeep]
  rw [show Finset.image (stopAt samples start stop slots) (Finset.range slots) =
    stops samples start stop slots from rfl, hselected]
  split_ifs with hfew hmissing
  · -- the even places alone are as many as the slots
    have hall := @card_stops_union_evens samples _ _ _ _ h hpos hone (Nat.le_refl slots)
    have hevens : (evens start stop slots slots).card ≤
        (stops samples start stop slots ∪ evens start stop slots slots).card :=
      Finset.card_le_card Finset.subset_union_right
    rw [card_evens hfit (Nat.le_refl _)] at hevens
    rw [List.take_of_length_le (by simp)] at hall
    rw [selected_fillUntil hfew] at hmissing
    omega
  · rfl
  · rfl

/-- The marks are the first sample of the trace and the places that get a slot. -/
theorem mem_markTraceIndicesByTemperature (h : start ≤ stop) (hpos : 0 < slots)
    (hfit : slots ≤ stop - start + 1) (hone : slots = 1 → start = stop) {index : ℕ} :
    index ∈ markTraceIndicesByTemperature samples {0} start stop slots ↔
      index = 0 ∨ InStretch samples start stop slots index := by
  rw [markTraceIndicesByTemperature_eq h hpos hfit hone]
  have hplace (place : ℕ) :
      ((List.range slots).map (evenIndex start stop slots))[place]? = some index ↔
        place < slots ∧ evenIndex start stop slots place = index := by
    rw [List.getElem?_map]
    rcases Nat.lt_or_ge place slots with hlt | hge
    · rw [List.getElem?_range hlt]
      simp [hlt]
    · rw [List.getElem?_eq_none (by simpa using hge)]
      simp [Nat.not_lt.mpr hge]
  split_ifs with hfew
  · rw [mem_fillUntil hfew, Finset.mem_union, Finset.mem_singleton, or_assoc]
    unfold InStretch
    apply or_congr_right
    apply or_congr_right
    apply exists_congr
    intro place
    rw [hplace, and_assoc]
    apply and_congr_right
    intro hslot
    rw [card_stops_union_evens h hpos hone hslot.le]
  · rw [Finset.mem_union, Finset.mem_singleton]
    unfold InStretch
    apply or_congr_right
    constructor
    · exact .inl
    · rintro (hstop | ⟨slot, -, -, hroom⟩)
      · exact hstop
      · have hle : (stops samples start stop slots).card ≤
            (stops samples start stop slots ∪ evens start stop slots slot).card :=
          Finset.card_le_card Finset.subset_union_left
        omega

/-- There are at most as many marks as slots, and the first sample. -/
theorem card_markTraceIndicesByTemperature_le (h : start ≤ stop) (hpos : 0 < slots)
    (hfit : slots ≤ stop - start + 1) (hone : slots = 1 → start = stop) :
    (markTraceIndicesByTemperature samples {0} start stop slots).card ≤ slots + 1 := by
  rw [markTraceIndicesByTemperature_eq h hpos hfit hone]
  have hkept : ({0} ∪ stops samples start stop slots).card ≤
      (stops samples start stop slots).card + 1 := by
    have hunion := Finset.card_union_le {0} (stops samples start stop slots)
    rw [Finset.card_singleton] at hunion
    omega
  have hstops : (stops samples start stop slots).card ≤ slots := by
    have himage := @Finset.card_image_le _ _ (Finset.range slots)
      (stopAt samples start stop slots) _
    rwa [Finset.card_range] at himage
  split_ifs with hfew
  · have hcount := @card_fillUntil _ _ slots
      ((List.range slots).map (evenIndex start stop slots))
      ({0} ∪ stops samples start stop slots) (stops samples start stop slots).card
    have hselected := @selected_fillUntil _ _ _ _ ({0} ∪ stops samples start stop slots)
      ((List.range slots).map (evenIndex start stop slots)) hfew
    omega
  · omega

/-- Every sample of a stretch before its end is below the end. -/
def RisesTo (samples : List ThermalPlantTransientSample) (start stop : ℕ) : Prop :=
  ∀ index, start ≤ index → index < stop → rawAt samples index < rawAt samples stop

/-- The walk stops at the end of a stretch if the readings have risen to it. -/
theorem stop_mem_stops (h : start ≤ stop) (hpos : 0 < slots) (hone : slots = 1 → start = stop) :
    stop ∈ stops samples start stop slots ↔ RisesTo samples start stop := by
  constructor
  · intro hstop index hfrom hlt
    obtain ⟨slot, hslot, hat⟩ := Finset.mem_image.mp hstop
    have hslot := Finset.mem_range.mp hslot
    have hpassed := eq_false_of_lt_walkTo hfrom (Nat.lt_of_lt_of_eq hlt hat.symm)
    have hstart := eq_false_of_lt_walkTo (Nat.le_refl start)
      (Nat.lt_of_lt_of_eq (Nat.lt_of_le_of_lt hfrom hlt) hat.symm)
    simp only [decide_eq_false_iff_not, Nat.not_le] at hpassed hstart
    -- a target that is not above the first reading would have been reached there
    have hspan : targetRaw (rawAt samples start) (rawAt samples stop) slots slot ≤
        max (rawAt samples start) (rawAt samples stop) := by
      unfold targetRaw
      split_ifs with hslots
      · exact Nat.le_max_right _ _
      · have hdiv : slot * (rawAt samples stop - rawAt samples start) / (slots - 1) ≤
            rawAt samples stop - rawAt samples start := by
          apply Nat.div_le_of_le_mul
          exact Nat.mul_le_mul_right _ (by omega)
        omega
    omega
  · intro hrises
    rcases Nat.eq_or_lt_of_le h with rfl | hlt
    · exact start_mem_stops hpos hone
    · have hslots : slots ≠ 1 := fun hslots => absurd (hone hslots) (Nat.ne_of_lt hlt)
      have htarget : targetRaw (rawAt samples start) (rawAt samples stop) slots (slots - 1) =
          rawAt samples stop := by
        have hstart := hrises start (Nat.le_refl _) hlt
        unfold targetRaw
        rw [if_neg hslots, Nat.mul_div_cancel_left _ (by omega)]
        omega
      refine Finset.mem_image.mpr ⟨slots - 1, Finset.mem_range.mpr (by omega), ?_⟩
      apply walkTo_eq h (Nat.le_refl _)
      · intro habsurd
        exact absurd habsurd (Nat.lt_irrefl _)
      · intro earlier hfrom hbefore
        rw [htarget]
        simpa using hrises earlier hfrom hbefore

/-- The last sample of a stretch gets a slot if the readings have risen to it, or if the walk
stops at even places only. -/
theorem inStretch_stop_iff (h : start ≤ stop) (hpos : 0 < slots)
    (hfit : slots ≤ stop - start + 1) (hone : slots = 1 → start = stop) :
    InStretch samples start stop slots stop ↔
      RisesTo samples start stop ∨
        stops samples start stop slots ⊆ evens start stop slots (slots - 1) := by
  unfold InStretch
  rw [stop_mem_stops h hpos hone]
  apply or_congr_right
  have hcard := @card_evens start stop slots (slots - 1) hfit (Nat.sub_le _ _)
  constructor
  · rintro ⟨slot, hslot, hat, hroom⟩
    have hlast : slot = slots - 1 := by
      by_contra hne
      have hlt := @evenIndex_lt start stop slots slot (slots - 1) hfit (by omega) (by omega)
      rw [evenIndex_last h hpos] at hlt
      omega
    rw [hlast] at hroom
    have heq : evens start stop slots (slots - 1) =
        stops samples start stop slots ∪ evens start stop slots (slots - 1) :=
      Finset.eq_of_subset_of_card_le Finset.subset_union_right (by omega)
    rw [heq]
    exact Finset.subset_union_left
  · intro hsubset
    refine ⟨slots - 1, by omega, evenIndex_last h hpos, ?_⟩
    rw [Finset.union_eq_right.mpr hsubset, hcard]
    omega

end Walk

end FluxPurr.Thermal
