import FluxPurr.Thermal.DelayedPower
import FluxPurr.Thermal.TraceMarks

/-!
# What a compaction keeps

`Kept` says of each index whether it is kept (`mem_keptIndices`): the first sample is, the places
of the powered stretch that get a slot are, and the even places after the stretch.

A compaction keeps what it should (`KeepsImportant`) if and only if the last powered sample and a
sample with the highest reading are kept.  `Suitable` says so in terms of the readings
(`keepsImportant_iff`).
-/

namespace FluxPurr.Thermal

open FluxPurr.Memory

/-! ## The powered stretch -/

section Stretch

/-- The heater is on in the first of these samples and in the last, and in none outside. -/
structure Stretch (samples : List ThermalPlantTransientSample) (first last : ℕ) : Prop where
  first : samples.findIdx? isPowered = some first
  last : lastPoweredIndex samples = some last

variable {samples : List ThermalPlantTransientSample} {first last : ℕ}

theorem lastPoweredIndex_append (sample : ThermalPlantTransientSample) :
    lastPoweredIndex (samples ++ [sample]) =
      if isPowered sample then some samples.length else lastPoweredIndex samples := by
  unfold lastPoweredIndex
  rw [List.zipIdx_append, List.filter_append, List.getLast?_append, List.zipIdx_singleton,
    List.filter_singleton]
  rw [show (!thermalPlantSampleIsCooling sample && decide (sample.dutyPercent ≠ 0)) =
    isPowered sample from rfl]
  cases isPowered sample <;> simp

theorem lastPoweredIndex_lt (h : lastPoweredIndex samples = some last) : last < samples.length := by
  induction samples using List.reverseRecOn with
  | nil => cases h
  | append_singleton samples sample ih =>
    rw [lastPoweredIndex_append] at h
    rw [List.length_append, List.length_singleton]
    split_ifs at h
    · obtain rfl := Option.some.inj h
      exact Nat.lt_succ_self _
    · exact Nat.lt_succ_of_lt (ih h)

theorem getElem?_lastPoweredIndex (h : lastPoweredIndex samples = some last) :
    samples[last]? = samples.reverse.find? isPowered := by
  induction samples using List.reverseRecOn with
  | nil => cases h
  | append_singleton samples sample ih =>
    rw [lastPoweredIndex_append] at h
    rw [List.reverse_append, List.reverse_singleton, List.singleton_append, List.find?_cons]
    split_ifs at h with hpowered
    · obtain rfl := Option.some.inj h
      simp [hpowered]
    · rw [List.getElem?_append_left (lastPoweredIndex_lt h), ih h]
      simp [hpowered]

theorem lastPoweredIndex_eq_none :
    lastPoweredIndex samples = none ↔ ∀ sample ∈ samples, isPowered sample = false := by
  induction samples using List.reverseRecOn with
  | nil => simp [lastPoweredIndex]
  | append_singleton samples sample ih =>
    rw [lastPoweredIndex_append, List.forall_mem_append, List.forall_mem_singleton, ← ih]
    cases hpowered : isPowered sample <;> simp

theorem exists_stretch (h : ∃ sample ∈ samples, isPowered sample = true) :
    ∃ first last, Stretch samples first last := by
  obtain ⟨sample, hmem, hpowered⟩ := h
  cases hfirst : samples.findIdx? isPowered with
  | none =>
    have hnone := List.findIdx?_eq_none_iff.mp hfirst sample hmem
    rw [hpowered] at hnone
    cases hnone
  | some first =>
    cases hlast : lastPoweredIndex samples with
    | none =>
      have hnone := lastPoweredIndex_eq_none.mp hlast sample hmem
      rw [hpowered] at hnone
      cases hnone
    | some last => exact ⟨first, last, hfirst, hlast⟩

theorem Stretch.le (h : Stretch samples first last) : first ≤ last := by
  obtain ⟨hlt, -, hbefore⟩ := List.findIdx?_eq_some_iff_getElem.mp h.first
  have hlast := lastPoweredIndex_lt h.last
  have hfind := getElem?_lastPoweredIndex h.last
  rw [List.getElem?_eq_getElem hlast] at hfind
  have hpowered := List.find?_some hfind.symm
  by_contra hgt
  exact hbefore last (Nat.not_le.mp hgt) hpowered

theorem Stretch.getElem?_first (h : Stretch samples first last) :
    samples[first]? = samples.find? isPowered := by
  obtain ⟨hlt, hpowered, hbefore⟩ := List.findIdx?_eq_some_iff_getElem.mp h.first
  rw [List.getElem?_eq_getElem hlt]
  symm
  rw [List.find?_eq_some_iff_getElem]
  exact ⟨hpowered, first, hlt, rfl, fun index hindex => by simpa using hbefore index hindex⟩

end Stretch

/-! ## The kept indices -/

section Kept

variable (samples : List ThermalPlantTransientSample) (first last index : ℕ)

def coolingSlots : ℕ := min (samples.length - last - 1) 23

def poweredSlots : ℕ := min (47 - coolingSlots samples last) (last - first + 1)

/-- The place is after the stretch, and gets a slot. -/
def InTail : Prop :=
  ∃ slot < coolingSlots samples last,
    evenIndex (last + 1) (samples.length - 1) (coolingSlots samples last) slot = index

def Kept : Prop :=
  index = 0 ∨ InStretch samples first last (poweredSlots samples first last) index ∨
    InTail samples last index

variable {samples first last index}

theorem coolingSlots_le : coolingSlots samples last ≤ 23 := Nat.min_le_right _ _

theorem poweredSlots_pos : 0 < poweredSlots samples first last := by
  have hcooling := @coolingSlots_le samples last
  unfold poweredSlots
  omega

theorem poweredSlots_le : poweredSlots samples first last ≤ last - first + 1 := Nat.min_le_right _ _

theorem Stretch.eq_of_poweredSlots (h : Stretch samples first last)
    (hone : poweredSlots samples first last = 1) : first = last := by
  have hcooling := @coolingSlots_le samples last
  have hle := h.le
  unfold poweredSlots at hone
  omega

theorem markTraceIndicesByTemperature_min (keep : Finset ℕ) (start stop slots : ℕ) :
    markTraceIndicesByTemperature samples keep start stop (min slots (stop - start + 1)) =
      markTraceIndicesByTemperature samples keep start stop slots := by
  unfold markTraceIndicesByTemperature
  rw [Nat.min_assoc, Nat.min_self]

theorem mem_markTraceIndicesEvenly (keep : Finset ℕ) {start stop slots : ℕ}
    (hfit : slots ≤ stop - start + 1) :
    index ∈ markTraceIndicesEvenly keep start stop slots ↔
      index ∈ keep ∨ ∃ slot < slots, evenIndex start stop slots slot = index := by
  have hfold (places : List ℕ) (keep : Finset ℕ) :
      index ∈ places.foldl (fun keep slot => insert (evenIndex start stop slots slot) keep) keep ↔
        index ∈ keep ∨ ∃ slot ∈ places, evenIndex start stop slots slot = index := by
    induction places generalizing keep with
    | nil => simp
    | cons place places ih =>
      rw [List.foldl_cons, ih, Finset.mem_insert]
      simp only [List.mem_cons, exists_eq_or_imp, eq_comm (a := index)]
      tauto
  unfold markTraceIndicesEvenly
  simp only [Nat.min_eq_left hfit, hfold, List.mem_range]

theorem mem_keptIndices (h : Stretch samples first last) :
    index ∈ keptIndices samples ↔ Kept samples first last index := by
  have hlast := lastPoweredIndex_lt h.last
  have hstretch : index ∈ markTraceIndicesByTemperature samples {0} first last
        (47 - coolingSlots samples last) ↔
      index = 0 ∨ InStretch samples first last (poweredSlots samples first last) index := by
    rw [← markTraceIndicesByTemperature_min]
    exact mem_markTraceIndicesByTemperature h.le poweredSlots_pos poweredSlots_le
      h.eq_of_poweredSlots
  unfold keptIndices Kept InTail
  simp only [h.first, h.last]
  rw [show min (samples.length - last - 1) 23 = coolingSlots samples last from rfl, ← or_assoc,
    ← hstretch]
  split_ifs with hcooling
  · apply mem_markTraceIndicesEvenly
    unfold coolingSlots
    omega
  · have hnone : coolingSlots samples last = 0 := by
      unfold coolingSlots
      omega
    simp [hnone]

theorem keptIndices_of_unpowered (h : ∀ sample ∈ samples, isPowered sample = false) :
    keptIndices samples = {0} := by
  unfold keptIndices
  rw [List.findIdx?_eq_none_iff.mpr h]

theorem card_keptIndices_le : (keptIndices samples).card ≤ 48 := by
  by_cases hpowered : ∃ sample ∈ samples, isPowered sample = true
  · obtain ⟨first, last, h⟩ := exists_stretch hpowered
    have hmarks := @card_markTraceIndicesByTemperature_le samples first last
      (poweredSlots samples first last) h.le poweredSlots_pos poweredSlots_le
      h.eq_of_poweredSlots
    have hcooling := @coolingSlots_le samples last
    have hsubset : keptIndices samples ⊆
        markTraceIndicesByTemperature samples {0} first last (poweredSlots samples first last) ∪
          (Finset.range (coolingSlots samples last)).image
            (evenIndex (last + 1) (samples.length - 1) (coolingSlots samples last)) := by
      intro index hindex
      rw [Finset.mem_union,
        mem_markTraceIndicesByTemperature h.le poweredSlots_pos poweredSlots_le
          h.eq_of_poweredSlots]
      rcases (mem_keptIndices h).mp hindex with hzero | hstretch | ⟨slot, hslot, hat⟩
      · exact .inl (.inl hzero)
      · exact .inl (.inr hstretch)
      · exact .inr (Finset.mem_image.mpr ⟨slot, Finset.mem_range.mpr hslot, hat⟩)
    have htail := @Finset.card_image_le _ _ (Finset.range (coolingSlots samples last))
      (evenIndex (last + 1) (samples.length - 1) (coolingSlots samples last)) _
    rw [Finset.card_range] at htail
    have hslots : poweredSlots samples first last ≤ 47 - coolingSlots samples last :=
      Nat.min_le_left _ _
    calc (keptIndices samples).card
        ≤ _ := Finset.card_le_card hsubset
      _ ≤ _ := Finset.card_union_le _ _
      _ ≤ (poweredSlots samples first last + 1) + coolingSlots samples last :=
          Nat.add_le_add hmarks htail
      _ ≤ 48 := by omega
  · rw [keptIndices_of_unpowered (by simpa using hpowered), Finset.card_singleton]
    omega

end Kept

/-! ## The compacted trace -/

section Compacted

variable {samples : List ThermalPlantTransientSample} {first last : ℕ}
  {sample : ThermalPlantTransientSample}

theorem mem_compactTransientTrace (hlong : 48 < samples.length) :
    sample ∈ compactTransientTrace samples ↔
      ∃ index, samples[index]? = some sample ∧ index ∈ keptIndices samples := by
  unfold compactTransientTrace
  rw [if_neg (Nat.not_le.mpr hlong)]
  simp only [List.mem_map, List.mem_filter, Prod.exists, List.mem_zipIdx_iff_getElem?,
    decide_eq_true_eq]
  constructor
  · rintro ⟨kept, index, ⟨hat, hkept⟩, rfl⟩
    exact ⟨index, hat, hkept⟩
  · rintro ⟨index, hat, hkept⟩
    exact ⟨sample, index, ⟨hat, hkept⟩, rfl⟩

theorem compactTransientTrace_sublist : (compactTransientTrace samples).Sublist samples := by
  unfold compactTransientTrace
  split_ifs
  · exact .refl _
  · have hfilter : (samples.zipIdx.filter fun entry => entry.2 ∈ keptIndices samples).Sublist
        samples.zipIdx := List.filter_sublist
    have hmap := hfilter.map Prod.fst
    rwa [List.zipIdx_map_fst] at hmap

theorem length_compactTransientTrace_le : (compactTransientTrace samples).length ≤ 48 := by
  unfold compactTransientTrace
  split_ifs with hshort
  · exact hshort
  · let entries := samples.zipIdx.filter fun entry => entry.2 ∈ keptIndices samples
    have hnodup : (entries.map Prod.snd).Nodup := by
      have hsub : (entries.map Prod.snd).Sublist (samples.zipIdx.map Prod.snd) :=
        List.filter_sublist.map Prod.snd
      rw [List.zipIdx_map_snd] at hsub
      exact hsub.nodup List.nodup_range'
    have hsubset : (entries.map Prod.snd).toFinset ⊆ keptIndices samples := by
      intro index hindex
      obtain ⟨entry, hentry, rfl⟩ := List.mem_map.mp (List.mem_toFinset.mp hindex)
      simpa using (List.mem_filter.mp hentry).2
    calc (entries.map Prod.fst).length
        = (entries.map Prod.snd).length := by rw [List.length_map, List.length_map]
      _ = (entries.map Prod.snd).toFinset.card := (List.toFinset_card_of_nodup hnodup).symm
      _ ≤ (keptIndices samples).card := Finset.card_le_card hsubset
      _ ≤ 48 := card_keptIndices_le

theorem Increasing.index_eq (h : Increasing samples) {index index' : ℕ}
    (hat : samples[index]? = some sample) (hat' : samples[index']? = some sample) :
    index = index' := by
  obtain ⟨hlt, hget⟩ := List.getElem?_eq_some_iff.mp hat
  obtain ⟨hlt', hget'⟩ := List.getElem?_eq_some_iff.mp hat'
  rcases Nat.lt_trichotomy index index' with hbefore | hsame | hafter
  · have hticks := List.pairwise_iff_getElem.mp h index index' hlt hlt' hbefore
    rw [hget, hget'] at hticks
    exact absurd hticks (UInt32.lt_irrefl _)
  · exact hsame
  · have hticks := List.pairwise_iff_getElem.mp h index' index hlt' hlt hafter
    rw [hget, hget'] at hticks
    exact absurd hticks (UInt32.lt_irrefl _)

theorem Increasing.mem_compactTransientTrace (h : Increasing samples)
    (hlong : 48 < samples.length) {index : ℕ} (hat : samples[index]? = some sample) :
    sample ∈ compactTransientTrace samples ↔ index ∈ keptIndices samples := by
  rw [Thermal.mem_compactTransientTrace hlong]
  constructor
  · rintro ⟨index', hat', hkept⟩
    rwa [h.index_eq hat hat']
  · intro hkept
    exact ⟨index, hat, hkept⟩

end Compacted

/-! ## What should be kept -/

/-- A shorter trace with samples of the first one, in order, that has the samples the fit needs:
the first and the last one, the first and the last powered one, and a hottest one. -/
structure KeepsImportant (before after : List ThermalPlantTransientSample) : Prop where
  sublist : after.Sublist before
  frees : after.length < before.length
  first : ∀ sample, before.head? = some sample → sample ∈ after
  firstPowered : ∀ sample, before.find? isPowered = some sample → sample ∈ after
  lastPowered : ∀ sample, before.reverse.find? isPowered = some sample → sample ∈ after
  highest : ∃ sample ∈ after, ∀ other ∈ before, other.rawRtdAdcMv ≤ sample.rawRtdAdcMv
  last : ∀ sample, before.getLast? = some sample → sample ∈ after

/-- No reading of the trace is above the one at this index. -/
def IsPeak (samples : List ThermalPlantTransientSample) (index : ℕ) : Prop :=
  index < samples.length ∧ ∀ other < samples.length, rawAt samples other ≤ rawAt samples index

/-- The last powered sample and a peak get a slot. -/
structure Suitable (samples : List ThermalPlantTransientSample) (first last : ℕ) : Prop where
  stretch : Stretch samples first last
  lastSlot : RisesTo samples first last ∨
    stops samples first last (poweredSlots samples first last) ⊆
      evens first last (poweredSlots samples first last) (poweredSlots samples first last - 1)
  peakSlot : ∃ index, IsPeak samples index ∧ Kept samples first last index

variable {samples : List ThermalPlantTransientSample} {first last : ℕ}

theorem Stretch.kept_last_iff (h : Stretch samples first last) :
    Kept samples first last last ↔
      RisesTo samples first last ∨
        stops samples first last (poweredSlots samples first last) ⊆
          evens first last (poweredSlots samples first last)
            (poweredSlots samples first last - 1) := by
  rw [← inStretch_stop_iff h.le poweredSlots_pos poweredSlots_le h.eq_of_poweredSlots]
  constructor
  · rintro (hzero | hstretch | ⟨slot, hslot, hat⟩)
    · -- a stretch of the first sample alone
      have hfirst : first = last := by
        have hle := h.le
        omega
      rw [inStretch_stop_iff h.le poweredSlots_pos poweredSlots_le h.eq_of_poweredSlots]
      exact .inl fun index hfrom hlt => absurd hlt (by omega)
    · exact hstretch
    · have hlength := lastPoweredIndex_lt h.last
      have hge := @le_evenIndex (last + 1) (samples.length - 1) (coolingSlots samples last) slot
        (by unfold coolingSlots at hslot; omega)
      omega
  · exact fun hstretch => .inr (.inl hstretch)

theorem Stretch.kept_first (h : Stretch samples first last) : Kept samples first last first :=
  .inr (.inl (.inl (start_mem_stops poweredSlots_pos h.eq_of_poweredSlots)))

/-- The end of the trace is the end of the stretch, or the last even place after it. -/
theorem Stretch.kept_end (h : Stretch samples first last) (hlast : Kept samples first last last) :
    Kept samples first last (samples.length - 1) := by
  have hlength := lastPoweredIndex_lt h.last
  rcases Nat.eq_or_lt_of_le (Nat.le_sub_one_of_lt hlength) with heq | hlt
  · exact heq ▸ hlast
  · have hslots : 0 < coolingSlots samples last := by
      unfold coolingSlots
      omega
    exact .inr (.inr ⟨coolingSlots samples last - 1, by omega, evenIndex_last (by omega) hslots⟩)

/-- A trace that rises to the end of its powered stretch, and is nowhere hotter, is suitable. -/
theorem Stretch.suitable (h : Stretch samples first last) (hrises : RisesTo samples first last)
    (hpeak : IsPeak samples last) : Suitable samples first last where
  stretch := h
  lastSlot := .inl hrises
  peakSlot := ⟨last, hpeak, h.kept_last_iff.mpr (.inl hrises)⟩

theorem rawAt_of_getElem? {index : ℕ} {sample : ThermalPlantTransientSample}
    (h : samples[index]? = some sample) : rawAt samples index = sample.rawRtdAdcMv.toNat := by
  unfold rawAt
  rw [List.getD_eq_getElem?_getD, h]
  rfl

theorem isPeak_iff {index : ℕ} {sample : ThermalPlantTransientSample}
    (h : samples[index]? = some sample) :
    IsPeak samples index ↔ ∀ other ∈ samples, other.rawRtdAdcMv ≤ sample.rawRtdAdcMv := by
  constructor
  · rintro ⟨-, hpeak⟩ other hother
    obtain ⟨index', hlt', hget⟩ := List.getElem_of_mem hother
    have hat := List.getElem?_eq_some_iff.mpr ⟨hlt', hget⟩
    have hle := hpeak index' hlt'
    rw [rawAt_of_getElem? h, rawAt_of_getElem? hat] at hle
    exact UInt16.le_iff_toNat_le.mpr hle
  · intro hpeak
    refine ⟨(List.getElem?_eq_some_iff.mp h).1, fun index' hlt' => ?_⟩
    rw [rawAt_of_getElem? h, rawAt_of_getElem? (List.getElem?_eq_getElem hlt')]
    exact UInt16.le_iff_toNat_le.mp (hpeak _ (List.getElem_mem hlt'))

/-- A compaction keeps what it should if and only if the trace is suitable. -/
theorem keepsImportant_iff (h : Increasing samples) (hlong : 48 < samples.length) :
    KeepsImportant samples (compactTransientTrace samples) ↔
      ∃ first last, Suitable samples first last := by
  have hpos : 0 < samples.length := by omega
  have hlastAt : samples[samples.length - 1]? = samples.getLast? := List.getLast?_eq_getElem?.symm
  constructor
  · intro hkeeps
    have hend : samples.length - 1 ∈ keptIndices samples := by
      have hat := List.getElem?_eq_getElem (show samples.length - 1 < samples.length by omega)
      exact (h.mem_compactTransientTrace hlong hat).mp (hkeeps.last _ (hlastAt ▸ hat))
    have hpowered : ∃ sample ∈ samples, isPowered sample = true := by
      by_contra hnone
      rw [keptIndices_of_unpowered (by simpa using hnone), Finset.mem_singleton] at hend
      omega
    obtain ⟨first, last, hstretch⟩ := exists_stretch hpowered
    refine ⟨first, last, hstretch, ?_, ?_⟩
    · rw [← hstretch.kept_last_iff, ← mem_keptIndices hstretch]
      have hat := List.getElem?_eq_getElem (lastPoweredIndex_lt hstretch.last)
      have hfind := getElem?_lastPoweredIndex hstretch.last
      exact (h.mem_compactTransientTrace hlong hat).mp (hkeeps.lastPowered _ (hfind ▸ hat))
    · obtain ⟨sample, hmem, hpeak⟩ := hkeeps.highest
      obtain ⟨index, hat, hkept⟩ := (mem_compactTransientTrace hlong).mp hmem
      exact ⟨index, (isPeak_iff hat).mpr hpeak, (mem_keptIndices hstretch).mp hkept⟩
  · rintro ⟨first, last, hstretch, hlast, peak, hpeak, hkeptPeak⟩
    have hkeptLast := hstretch.kept_last_iff.mpr hlast
    have hkeep (index : ℕ) (hkept : Kept samples first last index)
        (sample : ThermalPlantTransientSample) (hat : samples[index]? = some sample) :
        sample ∈ compactTransientTrace samples :=
      (h.mem_compactTransientTrace hlong hat).mpr ((mem_keptIndices hstretch).mpr hkept)
    have hpeakAt := List.getElem?_eq_getElem hpeak.1
    refine ⟨compactTransientTrace_sublist, ?_, ?_, ?_, ?_, ?_, ?_⟩
    · exact Nat.lt_of_le_of_lt length_compactTransientTrace_le hlong
    · intro sample hhead
      exact hkeep 0 (.inl rfl) sample (List.head?_eq_getElem? ▸ hhead)
    · intro sample hfind
      exact hkeep first hstretch.kept_first sample (hstretch.getElem?_first ▸ hfind)
    · intro sample hfind
      exact hkeep last hkeptLast sample (getElem?_lastPoweredIndex hstretch.last ▸ hfind)
    · exact ⟨_, hkeep peak hkeptPeak _ hpeakAt, (isPeak_iff hpeakAt).mp hpeak⟩
    · intro sample hgetLast
      exact hkeep _ (hstretch.kept_end hkeptLast) sample (hlastAt ▸ hgetLast)

end FluxPurr.Thermal
