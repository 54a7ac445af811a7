import FluxPurr.Pd.Selection

/-!
# The best of the objects that a source offers

A selector goes through the objects of the source and keeps the one that is better than those
before it.  When an object is compared with an earlier one as the preference says, what is left
at the end is preferred to every other eligible object (`isBest_of_selectBest`).  The objects
stand in the order of their positions (`readFrom_fromPdos`), so a comparison that keeps the
earlier one of two equal objects prefers the lower position.

Every object is read from the word at its position (`ReadFrom`), which is also where the source
looks when it gets a request.
-/

namespace FluxPurr.Pd

open FluxPurr.Wire

/-! ## Preferences -/

/-- Of the eligible objects, the one that is preferred to all the others. -/
structure IsBest {α : Type*} (objects : List α) (eligible : α → Prop) (prefers : α → α → Prop)
    (best : α) : Prop where
  mem : best ∈ objects
  isEligible : eligible best
  preferred : ∀ other ∈ objects, eligible other → other = best ∨ prefers best other

theorem IsBest.congr {α : Type*} {objects : List α} {eligible eligible' : α → Prop}
    {prefers : α → α → Prop} {best : α} (h : IsBest objects eligible prefers best)
    (hsame : ∀ object ∈ objects, eligible object ↔ eligible' object) :
    IsBest objects eligible' prefers best where
  mem := h.mem
  isEligible := (hsame best h.mem).mp h.isEligible
  preferred := fun other hmem hother => h.preferred other hmem ((hsame other hmem).mpr hother)

section

variable {α β : Type*} {better : β → β → Bool} {candidateOf : α → β} {prefers : α → α → Prop}
  {usable : α → Bool}

/-- An object is compared with an earlier one as the preference says. -/
def ComparesAs (better : β → β → Bool) (candidateOf : α → β) (prefers : α → α → Prop)
    (earlier later : α) : Prop :=
  (better (candidateOf later) (candidateOf earlier) = true → prefers later earlier) ∧
    (better (candidateOf later) (candidateOf earlier) = false → prefers earlier later)

theorem selectBest_concat (candidates : List β) (candidate : β) :
    selectBest better (candidates ++ [candidate]) =
      match selectBest better candidates with
      | none => some candidate
      | some current => if better candidate current then some candidate else some current := by
  unfold selectBest
  rw [List.foldl_append]
  generalize List.foldl _ none candidates = best
  cases best <;> rfl

theorem selectBest_eq_none_iff {candidates : List β} :
    selectBest better candidates = none ↔ candidates = [] := by
  constructor
  · intro h
    rcases List.eq_nil_or_concat' candidates with rfl | ⟨front, last, rfl⟩
    · rfl
    · rw [selectBest_concat] at h
      cases hfront : selectBest better front with
      | none =>
        rw [hfront] at h
        cases h
      | some current =>
        rw [hfront] at h
        dsimp only at h
        split at h <;> cases h
  · rintro rfl
    rfl

variable {objects : List α}

variable {eligible : α → Prop}

theorem IsBest.concat_of_not {best last : α}
    (h : IsBest objects eligible prefers best) (hlast : ¬eligible last) :
    IsBest (objects ++ [last]) eligible prefers best where
  mem := List.mem_append_left _ h.mem
  isEligible := h.isEligible
  preferred := by
    intro other hmem heligible
    rcases List.mem_append.mp hmem with hold | hnew
    · exact h.preferred other hold heligible
    · obtain rfl := List.mem_singleton.mp hnew
      exact absurd heligible hlast

theorem IsBest.concat_of_prefers {best last : α}
    (h : IsBest objects eligible prefers best) (hlast : prefers best last) :
    IsBest (objects ++ [last]) eligible prefers best where
  mem := List.mem_append_left _ h.mem
  isEligible := h.isEligible
  preferred := by
    intro other hmem heligible
    rcases List.mem_append.mp hmem with hold | hnew
    · exact h.preferred other hold heligible
    · obtain rfl := List.mem_singleton.mp hnew
      exact .inr hlast

theorem IsBest.concat_of_prefers_last {best last : α}
    (htrans : ∀ a b c, prefers a b → prefers b c → prefers a c)
    (h : IsBest objects eligible prefers best) (heligible : eligible last)
    (hlast : prefers last best) : IsBest (objects ++ [last]) eligible prefers last where
  mem := List.mem_append_right _ List.mem_cons_self
  isEligible := heligible
  preferred := by
    intro other hmem hother
    rcases List.mem_append.mp hmem with hold | hnew
    · rcases h.preferred other hold hother with rfl | hprefers
      · exact .inr hlast
      · exact .inr (htrans _ _ _ hlast hprefers)
    · exact .inl (List.mem_singleton.mp hnew)

theorem isBest_of_selectBest (htrans : ∀ a b c, prefers a b → prefers b c → prefers a c)
    (hsorted : objects.Pairwise (ComparesAs better candidateOf prefers))
    {result : β}
    (h : selectBest better ((objects.filter usable).map candidateOf) = some result) :
    ∃ best, IsBest objects (fun object => usable object = true) prefers best ∧
      result = candidateOf best := by
  -- along the loop: the candidate that is kept belongs to the best object so far
  induction objects using List.reverseRecOn generalizing result with
  | nil => cases h
  | append_singleton objects last ih =>
    rw [List.pairwise_append] at hsorted
    rw [List.filter_append, List.map_append] at h
    cases husable : usable last with
    | false =>
      have hnone : [last].filter usable = [] := List.filter_cons_of_neg (by simp [husable])
      rw [hnone, List.map_nil, List.append_nil] at h
      obtain ⟨best, hbest, rfl⟩ := ih hsorted.1 h
      exact ⟨best, hbest.concat_of_not (by simp [husable]), rfl⟩
    | true =>
      have hlast : [last].filter usable = [last] := List.filter_cons_of_pos husable
      rw [hlast, List.map_singleton, selectBest_concat] at h
      cases hfront : selectBest better ((objects.filter usable).map candidateOf) with
      | none =>
        rw [hfront] at h
        obtain rfl := Option.some.inj h
        have hempty : objects.filter usable = [] :=
          List.map_eq_nil_iff.mp (selectBest_eq_none_iff.mp hfront)
        refine ⟨last, ⟨List.mem_append_right _ List.mem_cons_self, husable, ?_⟩, rfl⟩
        intro other hmem hother
        rcases List.mem_append.mp hmem with hold | hnew
        · exact absurd hother (List.filter_eq_nil_iff.mp hempty other hold)
        · exact .inl (List.mem_singleton.mp hnew)
      | some current =>
        rw [hfront] at h
        obtain ⟨best, hbest, rfl⟩ := ih hsorted.1 hfront
        have hcompares := hsorted.2.2 best hbest.mem last List.mem_cons_self
        dsimp only at h
        split at h
        · rename_i hbetter
          obtain rfl := Option.some.inj h
          exact ⟨last, hbest.concat_of_prefers_last htrans husable (hcompares.1 hbetter), rfl⟩
        · rename_i hbetter
          obtain rfl := Option.some.inj h
          exact ⟨best, hbest.concat_of_prefers (hcompares.2 (eq_false_of_ne_true hbetter)), rfl⟩

/-- The first object that is served is the best one when earlier objects are preferred. -/
theorem isBest_of_find? (hsorted : objects.Pairwise prefers) {best : α}
    (h : objects.find? usable = some best) :
    IsBest objects (fun object => usable object = true) prefers best := by
  obtain ⟨husable, front, rest, rfl, hfront⟩ := List.find?_eq_some_iff_append.mp h
  refine ⟨List.mem_append_right _ List.mem_cons_self, husable, ?_⟩
  intro other hmem hother
  rcases List.mem_append.mp hmem with hbefore | hafter
  · exact absurd hother (by simpa using hfront other hbefore)
  · rcases List.mem_cons.mp hafter with rfl | hrest
    · exact .inl rfl
    · rw [List.pairwise_append, List.pairwise_cons] at hsorted
      exact .inr (hsorted.2.1.1 other hrest)

end

/-! ## Positions -/

/-- The word of a fixed PDO. -/
def isFixedWord (raw : UInt32) : Prop := bitField raw.toNat 30 2 = 0

/-- The word of a PPS APDO. -/
def isPpsWord (raw : UInt32) : Prop := bitField raw.toNat 30 2 = 3 ∧ bitField raw.toNat 28 2 = 0

instance (raw : UInt32) : Decidable (isFixedWord raw) := inferInstanceAs (Decidable (_ = _))

instance (raw : UInt32) : Decidable (isPpsWord raw) := inferInstanceAs (Decidable (_ ∧ _))

namespace SourceCapabilities

/-- The objects are read from the first words, each from the one at its position, and stand in
the order of their positions. -/
structure ReadFrom (pdos : List UInt32) (count : ℕ) (capabilities : SourceCapabilities) :
    Prop where
  fixed : ∀ pdo ∈ capabilities.fixed, ∃ index raw, index < count ∧ pdos[index]? = some raw ∧
    isFixedWord raw ∧ pdo.objectPosition = index + 1 ∧
      pdo.voltageMv = bitField raw.toNat 10 10 * 50 ∧ pdo.maxMa = bitField raw.toNat 0 10 * 10
  pps : ∀ apdo ∈ capabilities.pps, ∃ index raw, index < count ∧ pdos[index]? = some raw ∧
    isPpsWord raw ∧ apdo.objectPosition = index + 1 ∧ apdo.maxMa = bitField raw.toNat 0 7 * 50
  fixedSorted : capabilities.fixed.Pairwise fun a b => a.objectPosition < b.objectPosition
  ppsSorted : capabilities.pps.Pairwise fun a b => a.objectPosition < b.objectPosition

namespace ReadFrom

variable {pdos : List UInt32} {count : ℕ} {capabilities : SourceCapabilities}

theorem empty (pdos : List UInt32) : ReadFrom pdos 0 {} where
  fixed _ h := absurd h List.not_mem_nil
  pps _ h := absurd h List.not_mem_nil
  fixedSorted := List.Pairwise.nil
  ppsSorted := List.Pairwise.nil

theorem mono (h : ReadFrom pdos count capabilities) : ReadFrom pdos (count + 1) capabilities where
  fixed := by
    intro pdo hmem
    obtain ⟨index, raw, hlt, hread⟩ := h.fixed pdo hmem
    exact ⟨index, raw, Nat.lt_succ_of_lt hlt, hread⟩
  pps := by
    intro apdo hmem
    obtain ⟨index, raw, hlt, hread⟩ := h.pps apdo hmem
    exact ⟨index, raw, Nat.lt_succ_of_lt hlt, hread⟩
  __ := h

theorem pushFixed (h : ReadFrom pdos count capabilities) {raw : UInt32}
    (hraw : pdos[count]? = some raw) (hword : isFixedWord raw) :
    ReadFrom pdos (count + 1) (capabilities.pushFixed
      { objectPosition := count + 1
        voltageMv := bitField raw.toNat 10 10 * 50
        maxMa := bitField raw.toNat 0 10 * 10 }) := by
  unfold SourceCapabilities.pushFixed
  split_ifs
  · exact h.mono
  · refine { h.mono with fixed := ?_, fixedSorted := ?_ }
    · intro pdo hmem
      rcases List.mem_append.mp hmem with hold | hnew
      · exact h.mono.fixed pdo hold
      · obtain rfl := List.mem_singleton.mp hnew
        exact ⟨count, raw, Nat.lt_succ_self count, hraw, hword, rfl, rfl, rfl⟩
    · refine List.pairwise_append.mpr ⟨h.fixedSorted, List.pairwise_singleton _ _, ?_⟩
      intro pdo hold last hnew
      obtain rfl := List.mem_singleton.mp hnew
      obtain ⟨index, raw, hlt, _, _, hposition, _⟩ := h.fixed pdo hold
      rw [hposition]
      exact Nat.succ_lt_succ hlt
  · exact h.mono

theorem pushPps (h : ReadFrom pdos count capabilities) {raw : UInt32}
    (hraw : pdos[count]? = some raw) (hword : isPpsWord raw) :
    ReadFrom pdos (count + 1) (capabilities.pushPps
      { objectPosition := count + 1
        minMv := bitField raw.toNat 8 8 * 100
        maxMv := bitField raw.toNat 17 8 * 100
        maxMa := bitField raw.toNat 0 7 * 50 }) := by
  unfold SourceCapabilities.pushPps
  split_ifs
  · exact h.mono
  · refine { h.mono with pps := ?_, ppsSorted := ?_ }
    · intro apdo hmem
      rcases List.mem_append.mp hmem with hold | hnew
      · exact h.mono.pps apdo hold
      · obtain rfl := List.mem_singleton.mp hnew
        exact ⟨count, raw, Nat.lt_succ_self count, hraw, hword, rfl, rfl⟩
    · refine List.pairwise_append.mpr ⟨h.ppsSorted, List.pairwise_singleton _ _, ?_⟩
      intro apdo hold last hnew
      obtain rfl := List.mem_singleton.mp hnew
      obtain ⟨index, raw, hlt, _, _, hposition, _⟩ := h.pps apdo hold
      rw [hposition]
      exact Nat.succ_lt_succ hlt
  · exact h.mono

theorem pushPdo (h : ReadFrom pdos count capabilities) {raw : UInt32}
    (hraw : pdos[count]? = some raw) :
    ReadFrom pdos (count + 1) (capabilities.pushPdo raw (count + 1)) := by
  unfold SourceCapabilities.pushPdo
  split_ifs with hfixed hpps
  · exact h.pushFixed hraw hfixed
  · exact h.pushPps hraw hpps
  · exact h.mono

theorem foldl (words : List UInt32) (h : ReadFrom pdos count capabilities)
    (hwords : ∀ index raw, words[index]? = some raw → pdos[count + index]? = some raw) :
    ReadFrom pdos (count + words.length) ((words.zipIdx count).foldl
      (fun capabilities entry => capabilities.pushPdo entry.1 (entry.2 + 1)) capabilities) := by
  induction words generalizing count capabilities with
  | nil => exact h
  | cons raw words ih =>
    rw [List.zipIdx_cons, List.foldl_cons, List.length_cons, Nat.add_comm words.length,
      ← Nat.add_assoc]
    apply ih (h.pushPdo (hwords 0 raw rfl))
    intro index word hword
    rw [Nat.add_assoc, Nat.add_comm 1]
    exact hwords (index + 1) word hword

end ReadFrom

theorem readFrom_fromPdos (pdos : List UInt32) :
    ReadFrom pdos (pdos.take maxSourcePdos).length (fromPdos pdos) := by
  have hread := (ReadFrom.empty pdos).foldl (pdos.take maxSourcePdos) (fun index raw hraw => by
    rw [Nat.zero_add]
    rw [List.getElem?_take] at hraw
    split at hraw
    · exact hraw
    · cases hraw)
  rw [Nat.zero_add] at hread
  exact hread

end SourceCapabilities

end FluxPurr.Pd
