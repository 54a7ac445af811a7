import Mathlib.Data.List.Induction
import FluxPurr.Calibration.ManualPps
import FluxPurr.Collections.IntervalComponent

/-!
# The voltages and the current of a source with several APDOs

`contiguousPpsSourceLimits` grows a range around an anchor until no APDO of at least 3 A
leaves it, and takes the smallest current at some checkpoints.  The range is the component of
the anchor among these APDOs (`Fills.component_iff`).  The largest current that is offered for
a voltage can only fall just above the end of an APDO, so below every voltage of the range
there is a checkpoint that offers no more (`exists_checkpoint_le`).
-/

namespace FluxPurr.Calibration.ManualPpsState

open FluxPurr.Collections

variable (state : ManualPpsState)

local instance : LinearOrder UInt16 where
  le_refl := UInt16.le_refl
  le_trans _ _ _ := UInt16.le_trans
  le_antisymm _ _ := UInt16.le_antisymm
  le_total := UInt16.le_total
  lt_iff_le_not_ge _ _ := by grind
  toDecidableLE := inferInstance
  min_def _ _ := rfl
  max_def _ _ := rfl

/-! ## The range -/

/-- The range with the APDO, if that has at least 3 A and covers the anchor. -/
def joinedBy (anchorMv : UInt16) (range : UInt16 × UInt16) (apdo : PpsApdo) : UInt16 × UInt16 :=
  if anchorMv < state.lowest apdo ∨ state.highest apdo < anchorMv ∨ apdo.maxMa < 3000 then range
  else (min range.1 (state.lowest apdo), max range.2 (state.highest apdo))

def anchoredRange (anchorMv : UInt16) : UInt16 × UInt16 :=
  state.apdos.foldl (state.joinedBy anchorMv) (65535, 0)

/-- The APDO reaches further up. -/
def raisedBy (reachableMaxMv : UInt16) (apdo : PpsApdo) : UInt16 :=
  if 3000 ≤ apdo.maxMa ∧ state.lowest apdo ≤ reachableMaxMv ∧
      reachableMaxMv < state.highest apdo then state.highest apdo
  else reachableMaxMv

/-- The APDO reaches further down. -/
def loweredBy (minimumMv : UInt16) (apdo : PpsApdo) : UInt16 :=
  if 3000 ≤ apdo.maxMa ∧ minimumMv ≤ state.highest apdo ∧ state.lowest apdo < minimumMv then
    state.lowest apdo
  else minimumMv

def extendReachableMax (reachableMaxMv : UInt16) : UInt16 :=
  state.apdos.foldl state.raisedBy reachableMaxMv

def extendMinimum (minimumMv : UInt16) : UInt16 := state.apdos.foldl state.loweredBy minimumMv

/-- A pass over a list that never lowers the value changes nothing only if no item does. -/
theorem foldl_stable {α β : Type*} [PartialOrder α] {pass : α → β → α}
    (hpass : ∀ value item, value ≤ pass value item) (items : List β) (value : α) :
    value ≤ items.foldl pass value ∧
      (items.foldl pass value = value → ∀ item ∈ items, pass value item = value) := by
  induction items generalizing value with
  | nil => exact ⟨le_rfl, fun _ => nofun⟩
  | cons first rest ih =>
    obtain ⟨hrest, hstable⟩ := ih (pass value first)
    refine ⟨(hpass value first).trans hrest, fun hsame => ?_⟩
    have hfirst : pass value first = value := by
      apply le_antisymm _ (hpass value first)
      exact hrest.trans hsame.le
    rw [List.foldl_cons, hfirst] at hsame
    rw [hfirst] at hstable
    intro item hitem
    rcases List.mem_cons.mp hitem with rfl | hitem
    · exact hfirst
    · exact hstable hsame item hitem

theorem extendReachableMax_stable (reachableMaxMv : UInt16) :
    reachableMaxMv ≤ state.extendReachableMax reachableMaxMv ∧
      (state.extendReachableMax reachableMaxMv = reachableMaxMv → ∀ apdo ∈ state.apdos,
        3000 ≤ apdo.maxMa → state.lowest apdo ≤ reachableMaxMv →
          state.highest apdo ≤ reachableMaxMv) := by
  have hpass (value : UInt16) (apdo : PpsApdo) : value ≤ state.raisedBy value apdo := by
    unfold raisedBy
    split_ifs with h
    · exact h.2.2.le
    · exact le_rfl
  obtain ⟨hle, hstable⟩ := foldl_stable hpass state.apdos reachableMaxMv
  refine ⟨hle, fun hsame apdo hmem hsuits hlow => not_lt.mp fun hhigh => ?_⟩
  have hraised := hstable hsame apdo hmem
  rw [raisedBy, if_pos ⟨hsuits, hlow, hhigh⟩] at hraised
  exact absurd hraised hhigh.ne'

theorem extendMinimum_stable (minimumMv : UInt16) :
    state.extendMinimum minimumMv ≤ minimumMv ∧
      (state.extendMinimum minimumMv = minimumMv → ∀ apdo ∈ state.apdos,
        3000 ≤ apdo.maxMa → minimumMv ≤ state.highest apdo → minimumMv ≤ state.lowest apdo) := by
  have hpass (value : UInt16) (apdo : PpsApdo) : state.loweredBy value apdo ≤ value := by
    unfold loweredBy
    split_ifs with h
    · exact h.2.2.le
    · exact le_rfl
  obtain ⟨hle, hstable⟩ := @foldl_stable UInt16ᵒᵈ _ _ state.loweredBy hpass state.apdos minimumMv
  refine ⟨hle, fun hsame apdo hmem hsuits hhigh => not_lt.mp fun hlow => ?_⟩
  have hlowered := hstable hsame apdo hmem
  rw [loweredBy, if_pos ⟨hsuits, hhigh, hlow⟩] at hlowered
  exact absurd hlowered hlow.ne

/-- `while self.extend_reachable_max(&mut reachable_max_mv) {}` -/
def growReachableMax (reachableMaxMv : UInt16) : UInt16 :=
  if state.extendReachableMax reachableMaxMv = reachableMaxMv then reachableMaxMv
  else growReachableMax (state.extendReachableMax reachableMaxMv)
termination_by 65535 - reachableMaxMv.toNat
decreasing_by
  rename_i hchanged
  have hle := UInt16.le_iff_toNat_le.mp (state.extendReachableMax_stable reachableMaxMv).1
  have hne := mt UInt16.toNat_inj.mp hchanged
  have hlt := (state.extendReachableMax reachableMaxMv).toNat_lt
  omega

/-- `while self.extend_minimum(&mut minimum_mv) {}` -/
def growMinimum (minimumMv : UInt16) : UInt16 :=
  if state.extendMinimum minimumMv = minimumMv then minimumMv
  else growMinimum (state.extendMinimum minimumMv)
termination_by minimumMv.toNat
decreasing_by
  rename_i hchanged
  have hle := UInt16.le_iff_toNat_le.mp (state.extendMinimum_stable minimumMv).1
  have hne := mt UInt16.toNat_inj.mp hchanged
  omega

/-! ## The current -/

/-- The voltages of the range at which the current is looked up. -/
def checkpoints (minimumMv reachableMaxMv : UInt16) : List UInt16 :=
  (state.apdos.filter fun apdo => ¬ (apdo.maxMa < 3000 ∨ state.highest apdo < minimumMv ∨
      reachableMaxMv < state.lowest apdo)).flatMap fun apdo =>
    [max (state.lowest apdo) minimumMv, min (state.highest apdo) reachableMaxMv,
      if state.highest apdo = 65535 then 65535 else state.highest apdo + 1].filter fun checkpointMv =>
        minimumMv ≤ checkpointMv ∧ checkpointMv ≤ reachableMaxMv

/-- One more checkpoint, which must be covered. -/
def lookUp (observed : UInt16 × Bool) (checkpointMv : UInt16) : Option (UInt16 × Bool) :=
  (state.maximumPpsCurrentForTarget checkpointMv).map fun currentMa =>
    (min observed.1 currentMa, true)

def conservativeCurrentForRange (minimumMv reachableMaxMv : UInt16) : Option UInt16 :=
  match (state.checkpoints minimumMv reachableMaxMv).foldlM state.lookUp (65535, false) with
  | some (conservativeCurrentMa, true) => some conservativeCurrentMa
  | _ => none

/-- The range around the anchor, and the current that is offered in all of it. -/
def contiguousPpsSourceLimits (anchorMv : UInt16) : Option (UInt16 × UInt16 × UInt16) :=
  let (minimumMv, reachableMaxMv) := state.anchoredRange anchorMv
  if reachableMaxMv = 0 then none
  else
    let reachableMaxMv := state.growReachableMax reachableMaxMv
    let minimumMv := state.growMinimum minimumMv
    (state.conservativeCurrentForRange minimumMv reachableMaxMv).map fun currentMa =>
      (minimumMv, reachableMaxMv, currentMa)

/-! ## The range is a component -/

/-- The APDOs of at least 3 A, with what they offer of the range that may be requested. -/
def suitable : IntervalFamily PpsApdo UInt16 where
  counts apdo := apdo ∈ state.apdos ∧ 3000 ≤ apdo.maxMa
  lowest := state.lowest
  highest := state.highest

variable {state} {anchorMv minimumMv reachableMaxMv v : UInt16}

theorem anchoredRange_spec :
    (state.anchoredRange anchorMv = (65535, 0) ∧
      ∀ apdo, state.suitable.counts apdo → ¬ state.suitable.Covers apdo anchorMv) ∨
    (state.suitable.Fills anchorMv (state.anchoredRange anchorMv).1
        (state.anchoredRange anchorMv).2 ∧
      ∃ apdo, state.suitable.counts apdo ∧ state.suitable.Covers apdo anchorMv) := by
  suffices h : ∀ items : List PpsApdo, (∀ apdo ∈ items, apdo ∈ state.apdos) →
      let range := items.foldl (state.joinedBy anchorMv) (65535, 0)
      (range = (65535, 0) ∧
        ∀ apdo ∈ items, 3000 ≤ apdo.maxMa → ¬ state.suitable.Covers apdo anchorMv) ∨
      (state.suitable.Fills anchorMv range.1 range.2 ∧
        ∃ apdo, state.suitable.counts apdo ∧ state.suitable.Covers apdo anchorMv) by
    rcases h state.apdos fun _ => id with ⟨hrange, hnone⟩ | hfills
    · exact .inl ⟨hrange, fun apdo hcounts => hnone apdo hcounts.1 hcounts.2⟩
    · exact .inr hfills
  intro items hitems
  induction items using List.reverseRecOn with
  | nil => exact .inl ⟨rfl, nofun⟩
  | append_singleton items apdo ih =>
    have hbefore := ih fun other hmem => hitems other (List.mem_append_left _ hmem)
    have hmem : apdo ∈ state.apdos := hitems apdo (by simp)
    rw [List.foldl_concat]
    generalize items.foldl _ _ = range at hbefore ⊢
    unfold joinedBy
    split_ifs with hmisses
    · rcases hbefore with ⟨hrange, hnone⟩ | hfills
      · refine .inl ⟨hrange, fun other hother hsuits hcovers => ?_⟩
        rcases List.mem_append.mp hother with hold | hnew
        · exact hnone other hold hsuits hcovers
        · obtain rfl := List.mem_singleton.mp hnew
          rcases hmisses with habove | hbelow | hweak
          · exact absurd hcovers.1 (not_le.mpr habove)
          · exact absurd hcovers.2 (not_le.mpr hbelow)
          · exact absurd hsuits (not_le.mpr hweak)
      · exact .inr hfills
    · obtain ⟨hlow, hmisses⟩ := not_or.mp hmisses
      obtain ⟨hhigh, hsuits⟩ := not_or.mp hmisses
      rw [not_lt] at hlow hhigh hsuits
      have hcounts : state.suitable.counts apdo := ⟨hmem, hsuits⟩
      refine .inr ⟨?_, apdo, hcounts, hlow, hhigh⟩
      rcases hbefore with ⟨rfl, -⟩ | ⟨hfills, -⟩
      · have hmin : min (65535 : UInt16) (state.lowest apdo) = state.lowest apdo :=
          min_eq_right (UInt16.le_iff_toNat_le.mpr
            (Nat.le_of_lt_succ (state.lowest apdo).toNat_lt))
        have hmax : max (0 : UInt16) (state.highest apdo) = state.highest apdo :=
          max_eq_right (UInt16.le_iff_toNat_le.mpr (Nat.zero_le _))
        rw [hmin, hmax]
        exact ⟨hlow, hhigh, fun v hle hge => .of_covers hcounts ⟨hlow, hhigh⟩ ⟨hle, hge⟩⟩
      · have hdown : state.suitable.Fills anchorMv (min range.1 (state.lowest apdo)) range.2 := by
          rcases le_total range.1 (state.lowest apdo) with hle | hge
          · rwa [min_eq_left hle]
          · rw [min_eq_right hge]
            exact hfills.growLow hcounts (hfills.low_le.trans hhigh) hge
        rcases le_total (state.highest apdo) range.2 with hle | hge
        · rwa [max_eq_left hle]
        · rw [max_eq_right hge]
          exact hdown.growHigh hcounts (hlow.trans hfills.le_high) hge

theorem growReachableMax_spec (h : state.suitable.Fills anchorMv minimumMv reachableMaxMv) :
    state.suitable.Fills anchorMv minimumMv (state.growReachableMax reachableMaxMv) ∧
      ∀ apdo, state.suitable.counts apdo → state.lowest apdo ≤ state.growReachableMax reachableMaxMv →
        state.highest apdo ≤ state.growReachableMax reachableMaxMv := by
  fun_induction growReachableMax state reachableMaxMv with
  | case1 reachableMaxMv hstable =>
    exact ⟨h, fun apdo hcounts =>
      (state.extendReachableMax_stable reachableMaxMv).2 hstable apdo hcounts.1 hcounts.2⟩
  | case2 reachableMaxMv hchanged ih =>
    refine ih (List.foldlRecOn state.apdos state.raisedBy h fun reached hfills apdo hmem => ?_)
    unfold raisedBy
    split_ifs with hraises
    · exact hfills.growHigh ⟨hmem, hraises.1⟩ hraises.2.1 hraises.2.2.le
    · exact hfills

theorem growMinimum_spec (h : state.suitable.Fills anchorMv minimumMv reachableMaxMv) :
    state.suitable.Fills anchorMv (state.growMinimum minimumMv) reachableMaxMv ∧
      ∀ apdo, state.suitable.counts apdo → state.growMinimum minimumMv ≤ state.highest apdo →
        state.growMinimum minimumMv ≤ state.lowest apdo := by
  fun_induction growMinimum state minimumMv with
  | case1 minimumMv hstable =>
    exact ⟨h, fun apdo hcounts =>
      (state.extendMinimum_stable minimumMv).2 hstable apdo hcounts.1 hcounts.2⟩
  | case2 minimumMv hchanged ih =>
    refine ih (List.foldlRecOn (motive := fun low => state.suitable.Fills anchorMv low _)
      state.apdos state.loweredBy h fun reached hfills apdo hmem => ?_)
    unfold loweredBy
    split_ifs with hlowers
    · exact hfills.growLow ⟨hmem, hlowers.1⟩ hlowers.2.1 hlowers.2.2.le
    · exact hfills

/-! ## The current is the smallest one -/

theorem covers_iff {apdo : PpsApdo} :
    state.covers apdo v = true ↔ state.suitable.Covers apdo v := decide_eq_true_iff

theorem maximumPpsCurrentForTarget_iff {currentMa : UInt16} :
    state.maximumPpsCurrentForTarget v = some currentMa ↔
      (∃ apdo ∈ state.apdos, state.suitable.Covers apdo v ∧ min apdo.maxMa 5000 = currentMa) ∧
        ∀ apdo ∈ state.apdos, state.suitable.Covers apdo v →
          min apdo.maxMa 5000 ≤ currentMa := by
  unfold maximumPpsCurrentForTarget
  rw [List.max?_eq_some_iff]
  simp only [List.mem_map, List.mem_filter, covers_iff, and_assoc]
  refine and_congr_right fun _ => ⟨fun h apdo hmem hcovers => ?_, ?_⟩
  · exact h _ ⟨apdo, hmem, hcovers, rfl⟩
  · rintro h _ ⟨apdo, hmem, hcovers, rfl⟩
    exact h apdo hmem hcovers

theorem exists_current {apdo : PpsApdo} (hcounts : state.suitable.counts apdo)
    (hcovers : state.suitable.Covers apdo v) :
    ∃ currentMa, state.maximumPpsCurrentForTarget v = some currentMa ∧
      min apdo.maxMa 5000 ≤ currentMa := by
  cases hcurrent : state.maximumPpsCurrentForTarget v with
  | some currentMa =>
    exact ⟨currentMa, rfl, (maximumPpsCurrentForTarget_iff.mp hcurrent).2 apdo hcounts.1 hcovers⟩
  | none =>
    unfold maximumPpsCurrentForTarget at hcurrent
    rw [List.max?_eq_none_iff, List.map_eq_nil_iff, List.filter_eq_nil_iff] at hcurrent
    exact absurd (covers_iff.mpr hcovers) (hcurrent apdo hcounts.1)

theorem mem_checkpoints {checkpointMv : UInt16} :
    checkpointMv ∈ state.checkpoints minimumMv reachableMaxMv ↔
      minimumMv ≤ checkpointMv ∧ checkpointMv ≤ reachableMaxMv ∧
        ∃ apdo, state.suitable.counts apdo ∧ minimumMv ≤ state.highest apdo ∧
          state.lowest apdo ≤ reachableMaxMv ∧
          (checkpointMv = max (state.lowest apdo) minimumMv ∨
            checkpointMv = min (state.highest apdo) reachableMaxMv ∨
            checkpointMv =
              if state.highest apdo = 65535 then 65535 else state.highest apdo + 1) := by
  simp only [checkpoints, List.mem_flatMap, List.mem_filter, decide_eq_true_eq, not_or, not_lt,
    List.mem_cons, List.not_mem_nil, or_false, suitable]
  constructor
  · rintro ⟨apdo, ⟨hmem, hsuits, hhigh, hlow⟩, hpoint, hmin, hmax⟩
    exact ⟨hmin, hmax, apdo, ⟨hmem, hsuits⟩, hhigh, hlow, hpoint⟩
  · rintro ⟨hmin, hmax, apdo, ⟨hmem, hsuits⟩, hhigh, hlow, hpoint⟩
    exact ⟨apdo, ⟨hmem, hsuits, hhigh, hlow⟩, hpoint, hmin, hmax⟩

theorem conservativeCurrentForRange_spec
    (hoffered : ∀ v ∈ state.checkpoints minimumMv reachableMaxMv,
      ∃ currentMa, state.maximumPpsCurrentForTarget v = some currentMa)
    (hnonempty : state.checkpoints minimumMv reachableMaxMv ≠ []) :
    ∃ currentMa, state.conservativeCurrentForRange minimumMv reachableMaxMv = some currentMa ∧
      (∃ v ∈ state.checkpoints minimumMv reachableMaxMv,
        state.maximumPpsCurrentForTarget v = some currentMa) ∧
      ∀ v ∈ state.checkpoints minimumMv reachableMaxMv, ∀ offered,
        state.maximumPpsCurrentForTarget v = some offered → currentMa ≤ offered := by
  unfold conservativeCurrentForRange
  generalize state.checkpoints minimumMv reachableMaxMv = points at *
  suffices h : ∃ observed : UInt16 × Bool,
      points.foldlM state.lookUp (65535, false) = some observed ∧
      (points = [] ∧ observed.1 = 65535 ∨ observed.2 = true ∧
        ∃ v ∈ points, state.maximumPpsCurrentForTarget v = some observed.1) ∧
      ∀ v ∈ points, ∀ offered, state.maximumPpsCurrentForTarget v = some offered →
        observed.1 ≤ offered by
    obtain ⟨⟨currentMa, seen⟩, hfold, hfound, hleast⟩ := h
    obtain ⟨rfl, hpoint⟩ := hfound.resolve_left fun hnil => hnonempty hnil.1
    exact ⟨currentMa, by rw [hfold], hpoint, hleast⟩
  clear hnonempty
  induction points using List.reverseRecOn with
  | nil => exact ⟨(65535, false), rfl, .inl ⟨rfl, rfl⟩, nofun⟩
  | append_singleton points point ih =>
    obtain ⟨observed, hfold, hfound, hleast⟩ :=
      ih fun v hmem => hoffered v (List.mem_append_left _ hmem)
    obtain ⟨currentMa, hcurrent⟩ := hoffered point (by simp)
    refine ⟨(min observed.1 currentMa, true), ?_, .inr ⟨rfl, ?_⟩, ?_⟩
    · rw [List.foldlM_append, hfold]
      simp [lookUp, hcurrent]
    · rcases le_total currentMa observed.1 with hle | hge
      · exact ⟨point, by simp, by rw [min_eq_right hle, hcurrent]⟩
      · rw [min_eq_left hge]
        rcases hfound with ⟨-, htop⟩ | ⟨-, v, hmem, hv⟩
        · have hall : currentMa ≤ observed.1 := htop ▸ UInt16.le_iff_toNat_le.mpr
            (Nat.le_of_lt_succ currentMa.toNat_lt)
          exact ⟨point, by simp, by rw [hcurrent, le_antisymm hge hall]⟩
        · exact ⟨v, List.mem_append_left _ hmem, hv⟩
    · intro v hmem offered hv
      rcases List.mem_append.mp hmem with hold | hnew
      · exact (min_le_left _ _).trans (hleast v hold offered hv)
      · obtain rfl := List.mem_singleton.mp hnew
        rw [hcurrent] at hv
        exact (min_le_right _ _).trans (Option.some.inj hv).le

section Range

variable (hfills : state.suitable.Fills anchorMv minimumMv reachableMaxMv)
  (hlow : ∀ apdo, state.suitable.counts apdo → minimumMv ≤ state.highest apdo →
    minimumMv ≤ state.lowest apdo)

include hfills

theorem exists_covers (hle : minimumMv ≤ v) (hge : v ≤ reachableMaxMv) :
    ∃ apdo, state.suitable.counts apdo ∧ state.suitable.Covers apdo v := by
  obtain ⟨first, last, hfirst, -, hchain, hlast⟩ := hfills.component v hle hge
  refine ⟨last, ?_, hlast⟩
  cases hchain with
  | refl => exact hfirst
  | tail _ hjoined => exact hjoined.1

include hlow

/-- Below every voltage of the range there is a checkpoint that offers no more, by induction on
the voltage: the offer does not fall from one voltage to the next unless an APDO ends there. -/
theorem exists_checkpoint_le {offered : UInt16} (hle : minimumMv ≤ v) (hge : v ≤ reachableMaxMv)
    (hoffered : state.maximumPpsCurrentForTarget v = some offered) :
    ∃ checkpointMv ∈ state.checkpoints minimumMv reachableMaxMv, ∃ currentMa,
      state.maximumPpsCurrentForTarget checkpointMv = some currentMa ∧ currentMa ≤ offered := by
  induction hn : v.toNat - minimumMv.toNat generalizing v offered with
  | zero =>
    obtain rfl : v = minimumMv := by
      have hnat := UInt16.le_iff_toNat_le.mp hle
      exact UInt16.toNat_inj.mp (by omega)
    obtain ⟨apdo, hcounts, hcovers⟩ := exists_covers hfills hle hge
    have hstart : state.lowest apdo = v := le_antisymm hcovers.1 (hlow apdo hcounts hcovers.2)
    refine ⟨v, mem_checkpoints.mpr ⟨hle, hge, apdo, hcounts, hcovers.2, ?_, .inl ?_⟩, offered,
      hoffered, le_rfl⟩
    · exact hstart.le.trans hge
    · rw [hstart, max_self]
  | succ n ih =>
    have hbound := v.toNat_lt
    have hnat := UInt16.le_iff_toNat_le.mp hle
    obtain ⟨before, hbefore⟩ : ∃ before : UInt16, before.toNat = v.toNat - 1 :=
      ⟨UInt16.ofNat (v.toNat - 1), UInt16.toNat_ofNat_of_lt'
        (Nat.lt_of_le_of_lt (Nat.sub_le _ _) hbound)⟩
    have hbelow : before ≤ v := UInt16.le_iff_toNat_le.mpr (by omega)
    have hinside : minimumMv ≤ before := UInt16.le_iff_toNat_le.mpr (by omega)
    have hsucc (bound : UInt16) (hbound : before ≤ bound) (hne : bound ≠ before) : v ≤ bound := by
      have hle := UInt16.le_iff_toNat_le.mp hbound
      have hne := mt UInt16.toNat_inj.mp hne
      exact UInt16.le_iff_toNat_le.mpr (by omega)
    by_cases hends : ∃ apdo, state.suitable.counts apdo ∧ state.suitable.Covers apdo before ∧
        state.highest apdo = before
    · obtain ⟨apdo, hcounts, hcovers, hend⟩ := hends
      refine ⟨v, mem_checkpoints.mpr ⟨hle, hge, apdo, hcounts, ?_, ?_, .inr (.inr ?_)⟩, offered,
        hoffered, le_rfl⟩
      · exact hinside.trans hcovers.2
      · exact hcovers.1.trans (hbelow.trans hge)
      · rw [hend, if_neg (by rintro rfl; simp at hbefore; omega)]
        apply UInt16.toNat_inj.mp
        rw [UInt16.toNat_add, hbefore]
        simp
        omega
    · obtain ⟨apdo, hcounts, hcovers⟩ := exists_covers hfills hinside (hbelow.trans hge)
      obtain ⟨currentMa, hcurrent, hstrong⟩ := exists_current hcounts hcovers
      obtain ⟨checkpointMv, hmem, leastMa, hleast, hle'⟩ :=
        ih hinside (hbelow.trans hge) hcurrent (by omega)
      refine ⟨checkpointMv, hmem, leastMa, hleast, hle'.trans ?_⟩
      -- the APDO that offers most below `v` has at least 3 A, so it goes on
      obtain ⟨⟨best, hbest, hcoversBest, hmax⟩, -⟩ := maximumPpsCurrentForTarget_iff.mp hcurrent
      have hsuits : 3000 ≤ best.maxMa :=
        calc (3000 : UInt16)
          _ ≤ min apdo.maxMa 5000 := le_min hcounts.2 (by decide)
          _ ≤ currentMa := hstrong
          _ = min best.maxMa 5000 := hmax.symm
          _ ≤ best.maxMa := min_le_left _ _
      have hgoes : state.suitable.Covers best v := by
        refine ⟨hcoversBest.1.trans hbelow, hsucc _ hcoversBest.2 fun hend => ?_⟩
        exact hends ⟨best, ⟨hbest, hsuits⟩, hcoversBest, hend⟩
      exact hmax ▸ (maximumPpsCurrentForTarget_iff.mp hoffered).2 best hbest hgoes

end Range

/-! ## The limits -/

/-- What the limits are: the component of the anchor, and the smallest current in it. -/
structure Limits (state : ManualPpsState) (anchorMv minimumMv reachableMaxMv currentMa : UInt16) :
    Prop where
  component : ∀ v, state.suitable.Component anchorMv v ↔ minimumMv ≤ v ∧ v ≤ reachableMaxMv
  anchor : minimumMv ≤ anchorMv ∧ anchorMv ≤ reachableMaxMv
  attained : ∃ v, minimumMv ≤ v ∧ v ≤ reachableMaxMv ∧
    state.maximumPpsCurrentForTarget v = some currentMa
  least : ∀ v, minimumMv ≤ v → v ≤ reachableMaxMv → ∃ offered,
    state.maximumPpsCurrentForTarget v = some offered ∧ currentMa ≤ offered

theorem limits_of_fills (hfills : state.suitable.Fills anchorMv minimumMv reachableMaxMv)
    (hhigh : ∀ apdo, state.suitable.counts apdo → state.lowest apdo ≤ reachableMaxMv →
      state.highest apdo ≤ reachableMaxMv)
    (hlow : ∀ apdo, state.suitable.counts apdo → minimumMv ≤ state.highest apdo →
      minimumMv ≤ state.lowest apdo) :
    ∃ currentMa, state.conservativeCurrentForRange minimumMv reachableMaxMv = some currentMa ∧
      Limits state anchorMv minimumMv reachableMaxMv currentMa := by
  have hoffer (v : UInt16) (hle : minimumMv ≤ v) (hge : v ≤ reachableMaxMv) :
      ∃ offered, state.maximumPpsCurrentForTarget v = some offered := by
    obtain ⟨apdo, hcounts, hcovers⟩ := exists_covers hfills hle hge
    obtain ⟨offered, hoffered, -⟩ := exists_current hcounts hcovers
    exact ⟨offered, hoffered⟩
  have hbelow (v : UInt16) (hle : minimumMv ≤ v) (hge : v ≤ reachableMaxMv) {offered : UInt16}
      (hoffered : state.maximumPpsCurrentForTarget v = some offered) :=
    exists_checkpoint_le hfills hlow hle hge hoffered
  obtain ⟨first, hfirst⟩ := hoffer anchorMv hfills.low_le hfills.le_high
  obtain ⟨point, hpoint, -⟩ := hbelow anchorMv hfills.low_le hfills.le_high hfirst
  obtain ⟨currentMa, hcurrent, ⟨v, hv, hattained⟩, hleast⟩ := conservativeCurrentForRange_spec
    (fun v hmem => hoffer v (mem_checkpoints.mp hmem).1 (mem_checkpoints.mp hmem).2.1)
    (List.ne_nil_of_mem hpoint)
  refine ⟨currentMa, hcurrent, fun v => hfills.component_iff hhigh hlow,
    ⟨hfills.low_le, hfills.le_high⟩,
    ⟨v, (mem_checkpoints.mp hv).1, (mem_checkpoints.mp hv).2.1, hattained⟩, ?_⟩
  intro v hle hge
  obtain ⟨offered, hoffered⟩ := hoffer v hle hge
  obtain ⟨checkpointMv, hmem, least, hfound, hle⟩ := hbelow v hle hge hoffered
  exact ⟨offered, hoffered, (hleast checkpointMv hmem least hfound).trans hle⟩

theorem contiguousPpsSourceLimits_cases (hanchor : anchorMv ≠ 0) :
    (state.contiguousPpsSourceLimits anchorMv = none ∧
      ∀ apdo, state.suitable.counts apdo → ¬ state.suitable.Covers apdo anchorMv) ∨
    ∃ minimumMv reachableMaxMv currentMa,
      state.contiguousPpsSourceLimits anchorMv = some (minimumMv, reachableMaxMv, currentMa) ∧
        (∃ apdo, state.suitable.counts apdo ∧ state.suitable.Covers apdo anchorMv) ∧
        Limits state anchorMv minimumMv reachableMaxMv currentMa := by
  unfold contiguousPpsSourceLimits
  rcases @anchoredRange_spec state anchorMv with ⟨hrange, hnone⟩ | ⟨hfills, hsome⟩
  · left
    rw [hrange]
    exact ⟨rfl, hnone⟩
  · right
    generalize state.anchoredRange anchorMv = range at hfills
    obtain ⟨hhighest, hhigh⟩ := growReachableMax_spec hfills
    obtain ⟨hgrown, hlow⟩ := growMinimum_spec hhighest
    obtain ⟨currentMa, hcurrent, hlimits⟩ := limits_of_fills hgrown hhigh hlow
    have hpositive : range.2 ≠ 0 := by
      rintro hzero
      have hle := UInt16.le_iff_toNat_le.mp (hzero ▸ hfills.le_high)
      exact hanchor (UInt16.toNat_inj.mp (Nat.le_zero.mp hle))
    dsimp only
    rw [if_neg hpositive, hcurrent]
    exact ⟨_, _, currentMa, rfl, hsome, hlimits⟩

theorem Limits.unique {other : ManualPpsState} {minimumMv' reachableMaxMv' currentMa currentMa' :
      UInt16} (h : Limits state anchorMv minimumMv reachableMaxMv currentMa)
    (h' : Limits other anchorMv minimumMv' reachableMaxMv' currentMa')
    (hsuitable : other.suitable = state.suitable)
    (hcurrent : ∀ v, other.maximumPpsCurrentForTarget v = state.maximumPpsCurrentForTarget v) :
    minimumMv' = minimumMv ∧ reachableMaxMv' = reachableMaxMv ∧ currentMa' = currentMa := by
  have hsame (v : UInt16) : minimumMv ≤ v ∧ v ≤ reachableMaxMv ↔
      minimumMv' ≤ v ∧ v ≤ reachableMaxMv' := by
    rw [← h.component, ← h'.component, hsuitable]
  have hle := h.anchor.1.trans h.anchor.2
  have hle' := h'.anchor.1.trans h'.anchor.2
  obtain rfl : minimumMv' = minimumMv :=
    le_antisymm ((hsame minimumMv).mp ⟨le_rfl, hle⟩).1 ((hsame minimumMv').mpr ⟨le_rfl, hle'⟩).1
  obtain rfl : reachableMaxMv' = reachableMaxMv :=
    le_antisymm ((hsame reachableMaxMv').mpr ⟨hle', le_rfl⟩).2
      ((hsame reachableMaxMv).mp ⟨hle, le_rfl⟩).2
  refine ⟨rfl, rfl, le_antisymm ?_ ?_⟩
  · obtain ⟨v, hmin, hmax, hattained⟩ := h.attained
    obtain ⟨offered, hoffered, hleast⟩ := h'.least v hmin hmax
    rw [hcurrent, hattained] at hoffered
    exact hleast.trans (Option.some.inj hoffered).ge
  · obtain ⟨v, hmin, hmax, hattained⟩ := h'.attained
    obtain ⟨offered, hoffered, hleast⟩ := h.least v hmin hmax
    rw [← hcurrent, hattained] at hoffered
    exact hleast.trans (Option.some.inj hoffered).ge

/-- Without a suitable APDO at the anchor there are no limits; otherwise the limits are those of
the component of the anchor, with the smallest current that is offered in it, in whichever order
the APDOs come. -/
theorem contiguousPpsSourceLimits_exact (hanchor : anchorMv ≠ 0) :
    (state.contiguousPpsSourceLimits anchorMv = none ↔
      ∀ apdo, state.suitable.counts apdo → ¬ state.suitable.Covers apdo anchorMv) ∧
    (∀ minimumMv reachableMaxMv currentMa,
      state.contiguousPpsSourceLimits anchorMv = some (minimumMv, reachableMaxMv, currentMa) →
        Limits state anchorMv minimumMv reachableMaxMv currentMa) ∧
    ∀ other : ManualPpsState, other.apdos.Perm state.apdos →
      other.requestMinMv = state.requestMinMv → other.requestMaxMv = state.requestMaxMv →
        other.contiguousPpsSourceLimits anchorMv = state.contiguousPpsSourceLimits anchorMv := by
  refine ⟨?_, ?_, ?_⟩
  · rcases @contiguousPpsSourceLimits_cases state anchorMv hanchor with
      ⟨hresult, hnone⟩ | ⟨_, _, _, hresult, ⟨apdo, hcounts, hcovers⟩, -⟩
    · exact iff_of_true hresult hnone
    · rw [hresult]
      exact iff_of_false nofun fun hnone => hnone apdo hcounts hcovers
  · intro minimumMv reachableMaxMv currentMa hsome
    rcases @contiguousPpsSourceLimits_cases state anchorMv hanchor with
      ⟨hresult, -⟩ | ⟨_, _, _, hresult, -, hlimits⟩
    · rw [hresult] at hsome
      cases hsome
    · rw [hresult] at hsome
      cases hsome
      exact hlimits
  · intro other hperm hmin hmax
    have hlowest : other.lowest = state.lowest := by
      funext apdo
      rw [lowest, lowest, hmin]
    have hhighest : other.highest = state.highest := by
      funext apdo
      rw [highest, highest, hmax]
    have hsuitable : other.suitable = state.suitable := by
      simp only [suitable, hperm.mem_iff, hlowest, hhighest]
    have hcurrent (v : UInt16) :
        other.maximumPpsCurrentForTarget v = state.maximumPpsCurrentForTarget v := by
      apply Option.ext
      intro currentMa
      rw [maximumPpsCurrentForTarget_iff, maximumPpsCurrentForTarget_iff, hsuitable]
      simp only [hperm.mem_iff]
    rcases @contiguousPpsSourceLimits_cases state anchorMv hanchor with
      ⟨hresult, hnone⟩ | ⟨_, _, _, hresult, ⟨apdo, hcounts, hcovers⟩, hlimits⟩ <;>
    rcases @contiguousPpsSourceLimits_cases other anchorMv hanchor with
      ⟨hresult', hnone'⟩ | ⟨_, _, _, hresult', ⟨apdo', hcounts', hcovers'⟩, hlimits'⟩
    · rw [hresult, hresult']
    · rw [hsuitable] at hcounts' hcovers'
      exact absurd hcovers' (hnone apdo' hcounts')
    · rw [hsuitable] at hnone'
      exact absurd hcovers (hnone' apdo hcounts)
    · obtain ⟨rfl, rfl, rfl⟩ := hlimits.unique hlimits' hsuitable hcurrent
      rw [hresult, hresult']

/-- A source with 5 A up to 11 V, 3 A up to 21 V and 2 A up to 24 V. -/
def threeRanges : ManualPpsState :=
  { capabilityApdos := #v[some ⟨9000, 21000, 3000⟩, some ⟨3300, 11000, 5000⟩,
      some ⟨3300, 24000, 2000⟩, none, none, none, none] }

theorem threeRanges_limits :
    (threeRanges.contiguousPpsSourceLimits 9000 = none ↔
      ∀ apdo, threeRanges.suitable.counts apdo → ¬ threeRanges.suitable.Covers apdo 9000) ∧
    ∃ apdo, threeRanges.suitable.counts apdo ∧ threeRanges.suitable.Covers apdo 9000 :=
  ⟨(contiguousPpsSourceLimits_exact (by decide)).1,
    ⟨9000, 21000, 3000⟩, ⟨by decide, by decide⟩, ⟨by decide, by decide⟩⟩

end FluxPurr.Calibration.ManualPpsState
