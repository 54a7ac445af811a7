import FluxPurr.Memory.ProfileCodec

/-!
# Which stored profiles are read in the layout they were written in

A record does not name its layout.  `readAs layout count bytes` is what a decoder
told the layout would read; `decodeThermalControlProfile` has to guess the layout
from the markers and the length.  `Unambiguous layout count` lists, in terms of
`profileSizeMatches` alone, the lengths on which the guess is right.

Two families of lengths are claimed before any unmarked layout is tried: the
packed one, whose marker is not looked at, and the `TCP2` one, when an unmarked
record happens to begin with its four bytes.

## Strategy

For an unambiguous length the decoder is evaluated branch by branch
(`decode_of_unambiguous`).  For the remaining ones, finitely many, a record that
is read differently is given (`probes`): all zero, which tells apart different
numbers of points, or with a first point that is not zero, which tells apart
different starts of the points.
-/

namespace FluxPurr.Memory

open FluxPurr.Wire

inductive ProfileLayout where
  | packed
  | marked
  | unmarked (settingsLen pointLen : ℕ)
  | pointOnly (pointLen : ℕ)
deriving DecidableEq, Repr

namespace ProfileLayout

/-- The layouts the decoder knows. -/
def all : List ProfileLayout :=
  [packed, marked] ++ thermalProfileLegacyLayouts.map (fun layout => unmarked layout.1 layout.2) ++
    thermalProfilePointOnlyLayouts.map pointOnly

def marker : ProfileLayout → List UInt8
  | packed => packedLayoutMarker
  | marked => layoutMarker
  | unmarked _ _ => []
  | pointOnly _ => []

/-- Where the points start. -/
def pointsStart : ProfileLayout → ℕ
  | packed => markedSettingsEnd
  | marked => markedSettingsEnd
  | unmarked settingsLen _ => settingsLen
  | pointOnly _ => 0

def pointLen : ProfileLayout → ℕ
  | packed => packedPointPayloadLen
  | marked => pointPayloadLenWithPointWarmupReenter
  | unmarked _ pointLen => pointLen
  | pointOnly pointLen => pointLen

/-- The numbers of points a layout can hold. -/
def Carries : ProfileLayout → ℕ → Prop
  | pointOnly _, count => count = profileMaxPoints
  | _, count => count ≤ profileMaxPoints

instance : (layout : ProfileLayout) → (count : ℕ) → Decidable (layout.Carries count)
  | packed, _ => inferInstanceAs (Decidable (_ ≤ _))
  | marked, _ => inferInstanceAs (Decidable (_ ≤ _))
  | unmarked _ _, _ => inferInstanceAs (Decidable (_ ≤ _))
  | pointOnly _, _ => inferInstanceAs (Decidable (_ = _))

end ProfileLayout

open ProfileLayout

/-- A record with `count` points in the given layout. -/
structure WrittenIn (layout : ProfileLayout) (count : ℕ) (bytes : List UInt8) : Prop where
  marker : startsWith bytes layout.marker
  length : bytes.length = layout.pointsStart + layout.pointLen * count

variable (layout : ProfileLayout) {bytes : List UInt8}

def readSettingsAs (bytes : List UInt8) : ThermalControlProfileSettingsConfig :=
  match layout with
  | .packed => decodeMarkedSettings bytes
  | .marked => decodeMarkedSettings bytes
  | .unmarked settingsLen _ => decodeThermalControlProfileSettings (bytes.take settingsLen)
  | .pointOnly _ => {}

/-- What a decoder that knows the layout reads. -/
def readAs (count : ℕ) (bytes : List UInt8) : ThermalControlProfileConfig :=
  match layout with
  | .packed =>
      { settings := readSettingsAs layout bytes
        points := fillSlots none profileMaxPoints ((List.range count).map fun index =>
          some (decodePackedProfilePoint
            ((bytes.drop (markedSettingsEnd + packedPointPayloadLen * index)).take
              packedPointPayloadLen))) }
  | layout =>
      { settings := readSettingsAs layout bytes
        points := decodeLegacyProfilePoints bytes (readSettingsAs layout bytes)
          layout.pointsStart layout.pointLen count }

/-- The lengths of the two families that are tried before the unmarked layouts. -/
def ClaimedByMarked (len : ℕ) : Prop :=
  profileSizeMatches len markedSettingsEnd packedPointPayloadLen ∨
    profileSizeMatches len markedSettingsEnd pointPayloadLenWithPointWarmupReenter

instance (len : ℕ) : Decidable (ClaimedByMarked len) := inferInstanceAs (Decidable (_ ∨ _))

/-- No layout that is tried earlier matches the length of `count` points, except
one that reads the same settings of a record without points. -/
def Unambiguous (count : ℕ) : Prop :=
  match layout with
  | .packed => True
  | .marked => count = 0 ∨ ¬ profileSizeMatches
      (markedSettingsEnd + pointPayloadLenWithPointWarmupReenter * count) markedSettingsEnd
      packedPointPayloadLen
  | .unmarked settingsLen pointLen =>
      ¬ ClaimedByMarked (settingsLen + pointLen * count) ∧
      ∀ earlier ∈ thermalProfileLegacyLayouts.takeWhile (· ≠ (settingsLen, pointLen)),
        profileSizeMatches (settingsLen + pointLen * count) earlier.1 earlier.2 →
          count = 0 ∧ earlier.1 = settingsLen
  | .pointOnly pointLen =>
      ¬ ClaimedByMarked (pointLen * count) ∧
      ∀ earlier ∈ thermalProfileLegacyLayouts,
        ¬ profileSizeMatches (pointLen * count) earlier.1 earlier.2

instance : (layout : ProfileLayout) → (count : ℕ) → Decidable (Unambiguous layout count)
  | .packed, _ => inferInstanceAs (Decidable True)
  | .marked, _ => inferInstanceAs (Decidable (_ ∨ _))
  | .unmarked _ _, _ => inferInstanceAs (Decidable (_ ∧ _))
  | .pointOnly _, _ => inferInstanceAs (Decidable (_ ∧ _))

/-! ## Unambiguous lengths -/

theorem profileSizeMatches_of_eq {len settingsLen pointLen count : ℕ} (hpoint : 0 < pointLen)
    (hlen : len = settingsLen + pointLen * count) (hcount : count ≤ profileMaxPoints) :
    profileSizeMatches len settingsLen pointLen ∧ (len - settingsLen) / pointLen = count := by
  have hrest : len - settingsLen = pointLen * count := by omega
  have hdiv : pointLen * count / pointLen = count := Nat.mul_div_cancel_left count hpoint
  refine ⟨⟨by omega, ?_, ?_⟩, ?_⟩
  · rw [hrest, Nat.mul_mod_right]
  · rw [hrest, hdiv]
    exact hcount
  · rw [hrest, hdiv]

theorem decode_of_legacyLayout
    {settings : ThermalControlProfileSettingsConfig} {cursor pointLen count : ℕ}
    (hpacked : ¬ profileSizeMatches bytes.length markedSettingsEnd packedPointPayloadLen)
    (hlayout : decodeLegacyProfileLayout bytes = (settings, cursor, pointLen))
    (hcount : (bytes.length - cursor) / pointLen = count) (hmax : count ≤ profileMaxPoints) :
    decodeThermalControlProfile bytes =
      { settings := settings
        points := decodeLegacyProfilePoints bytes settings cursor pointLen count } := by
  have hnone : decodePackedThermalProfile bytes = none := by
    rw [decodePackedThermalProfile, if_pos hpacked]
  simp only [decodeThermalControlProfile, hnone, hlayout, hcount, min_eq_left hmax]

theorem decode_packed {count : ℕ} (hcount : count ≤ profileMaxPoints)
    (hwritten : WrittenIn .packed count bytes) :
    decodeThermalControlProfile bytes = readAs .packed count bytes := by
  have hlen : bytes.length = markedSettingsEnd + packedPointPayloadLen * count := hwritten.length
  obtain ⟨hmatch, hdiv⟩ := profileSizeMatches_of_eq (by decide) hlen hcount
  have hsome : decodePackedThermalProfile bytes = some (readAs .packed count bytes) := by
    rw [decodePackedThermalProfile, if_neg (not_not_intro hmatch)]
    simp only [hdiv]
    rfl
  simp only [decodeThermalControlProfile, hsome]

theorem decode_marked {count : ℕ} (hcount : count ≤ profileMaxPoints)
    (hunambiguous : Unambiguous .marked count)
    (hwritten : WrittenIn .marked count bytes) :
    decodeThermalControlProfile bytes = readAs .marked count bytes := by
  have hlen : bytes.length = markedSettingsEnd + pointPayloadLenWithPointWarmupReenter * count :=
    hwritten.length
  obtain ⟨hmatch, hdiv⟩ := profileSizeMatches_of_eq (by decide) hlen hcount
  rcases hunambiguous with rfl | hpacked
  · -- Without points the packed layout reads the same eighteen bytes.
    have hsome : decodePackedThermalProfile bytes = some (readAs .marked 0 bytes) := by
      rw [decodePackedThermalProfile, hlen, if_neg (by decide)]
      rfl
    simp only [decodeThermalControlProfile, hsome]
  · have hlayout : decodeLegacyProfileLayout bytes =
        (decodeMarkedSettings bytes, markedSettingsEnd, pointPayloadLenWithPointWarmupReenter) := by
      rw [decodeLegacyProfileLayout, if_pos ⟨hwritten.marker, hmatch⟩]
    rw [← hlen] at hpacked
    rw [decode_of_legacyLayout hpacked hlayout hdiv hcount]
    rfl

theorem eq_takeWhile_append {α : Type*} [DecidableEq α] {item : α} {items : List α}
    (h : item ∈ items) : ∃ rest, items = items.takeWhile (· ≠ item) ++ item :: rest := by
  induction items with
  | nil => simp at h
  | cons head tail ih =>
    by_cases heq : head = item
    · exact ⟨tail, by simp [heq]⟩
    · have hmem : item ∈ tail := by
        rcases List.mem_cons.mp h with rfl | htail
        · exact absurd rfl heq
        · exact htail
      obtain ⟨rest, hrest⟩ := ih hmem
      refine ⟨rest, ?_⟩
      rw [List.takeWhile_cons_of_pos (by simpa using heq), List.cons_append, ← hrest]

theorem decode_unmarked {settingsLen pointLen count : ℕ}
    (hlisted : (settingsLen, pointLen) ∈ thermalProfileLegacyLayouts)
    (hcount : count ≤ profileMaxPoints)
    (hunambiguous : Unambiguous (.unmarked settingsLen pointLen) count)
    (hwritten : WrittenIn (.unmarked settingsLen pointLen) count bytes) :
    decodeThermalControlProfile bytes = readAs (.unmarked settingsLen pointLen) count bytes := by
  have hlen : bytes.length = settingsLen + pointLen * count := hwritten.length
  have hpos : ∀ layout ∈ thermalProfileLegacyLayouts, 0 < layout.2 := by decide
  obtain ⟨hmatch, hdiv⟩ := profileSizeMatches_of_eq (hpos _ hlisted) hlen hcount
  obtain ⟨hclaimed, hearlier⟩ := hunambiguous
  rw [← hlen] at hclaimed hearlier
  obtain ⟨hpacked, hmarked⟩ := not_or.mp hclaimed
  have hnotMarked : ¬ (startsWith bytes layoutMarker ∧ profileSizeMatches bytes.length
      markedSettingsEnd pointPayloadLenWithPointWarmupReenter) := fun h => hmarked h.2
  obtain ⟨rest, hrest⟩ := eq_takeWhile_append hlisted
  cases hfind : (thermalProfileLegacyLayouts.takeWhile (· ≠ (settingsLen, pointLen))).find?
      (fun layout => profileSizeMatches bytes.length layout.1 layout.2) with
  | none =>
    have hlayout : decodeLegacyProfileLayout bytes =
        (decodeThermalControlProfileSettings (bytes.take settingsLen),
          settingsLen, pointLen) := by
      rw [decodeLegacyProfileLayout, if_neg hnotMarked, hrest, List.find?_append, hfind,
        Option.none_or, List.find?_cons_of_pos (by simpa using hmatch)]
    rw [decode_of_legacyLayout hpacked hlayout hdiv hcount]
    rfl
  | some earlier =>
    -- An earlier match can only be the same settings without points.
    have hmem := List.mem_of_find?_eq_some hfind
    have hsize := List.find?_some hfind
    obtain ⟨rfl, hsettings⟩ := hearlier earlier hmem (by simpa using hsize)
    have hlayout : decodeLegacyProfileLayout bytes =
        (decodeThermalControlProfileSettings (bytes.take settingsLen), settingsLen,
          earlier.2) := by
      rw [decodeLegacyProfileLayout, if_neg hnotMarked, hrest, List.find?_append, hfind,
        Option.some_or]
      simp only [hsettings]
    have hzero : (bytes.length - settingsLen) / earlier.2 = 0 := by
      rw [hlen, Nat.mul_zero, Nat.add_zero, Nat.sub_self, Nat.zero_div]
    rw [decode_of_legacyLayout hpacked hlayout hzero (by decide)]
    rfl

theorem decode_pointOnly {pointLen count : ℕ} (hlisted : pointLen ∈ thermalProfilePointOnlyLayouts)
    (hcount : count = profileMaxPoints) (hunambiguous : Unambiguous (.pointOnly pointLen) count)
    (hwritten : WrittenIn (.pointOnly pointLen) count bytes) :
    decodeThermalControlProfile bytes = readAs (.pointOnly pointLen) count bytes := by
  subst hcount
  have hlen : bytes.length = pointLen * profileMaxPoints := by
    rw [hwritten.length]
    exact Nat.zero_add _
  have hpos : ∀ pointLen ∈ thermalProfilePointOnlyLayouts, 0 < pointLen := by decide
  obtain ⟨hclaimed, hearlier⟩ := hunambiguous
  rw [← hlen] at hclaimed hearlier
  obtain ⟨hpacked, hmarked⟩ := not_or.mp hclaimed
  have hnotMarked : ¬ (startsWith bytes layoutMarker ∧ profileSizeMatches bytes.length
      markedSettingsEnd pointPayloadLenWithPointWarmupReenter) := fun h => hmarked h.2
  have hunlisted : thermalProfileLegacyLayouts.find? (fun layout =>
      profileSizeMatches bytes.length layout.1 layout.2) = none := by
    rw [List.find?_eq_none]
    intro layout hlayout
    simpa using hearlier layout hlayout
  have hfind : thermalProfilePointOnlyLayouts.find? (fun pointLen =>
      bytes.length = profileMaxPoints * pointLen) = some pointLen := by
    cases hsome : thermalProfilePointOnlyLayouts.find? (fun pointLen =>
        bytes.length = profileMaxPoints * pointLen) with
    | none =>
      have hnot := List.find?_eq_none.mp hsome pointLen hlisted
      rw [hlen, Nat.mul_comm] at hnot
      simp at hnot
    | some found =>
      have hsize : bytes.length = profileMaxPoints * found := by
        simpa using List.find?_some hsome
      rw [hlen, Nat.mul_comm] at hsize
      rw [Nat.eq_of_mul_eq_mul_left (by decide) hsize]
  have hlayout : decodeLegacyProfileLayout bytes = ({}, 0, pointLen) := by
    rw [decodeLegacyProfileLayout, if_neg hnotMarked, hunlisted]
    simp only [hfind]
  have hdiv : (bytes.length - 0) / pointLen = profileMaxPoints := by
    rw [Nat.sub_zero, hlen, Nat.mul_div_cancel_left _ (hpos _ hlisted)]
  rw [decode_of_legacyLayout hpacked hlayout hdiv (by decide)]
  rfl

theorem decode_of_unambiguous {layout : ProfileLayout} (hlisted : layout ∈ all)
    {count : ℕ} (hcarries : layout.Carries count) (hunambiguous : Unambiguous layout count)
    (hwritten : WrittenIn layout count bytes) :
    decodeThermalControlProfile bytes = readAs layout count bytes := by
  cases layout with
  | packed => exact decode_packed hcarries hwritten
  | marked => exact decode_marked hcarries hunambiguous hwritten
  | unmarked settingsLen pointLen =>
    have hmem : (settingsLen, pointLen) ∈ thermalProfileLegacyLayouts := by
      simpa [all] using hlisted
    exact decode_unmarked hmem hcarries hunambiguous hwritten
  | pointOnly pointLen =>
    have hmem : pointLen ∈ thermalProfilePointOnlyLayouts := by
      simpa [all] using hlisted
    exact decode_pointOnly hmem hcarries hunambiguous hwritten

/-! ## Records that are read differently -/

/-- An unmarked record that happens to start with the `TCP2` marker and is zero
elsewhere but for the first byte of the first point. -/
def probe (count : ℕ) : List UInt8 :=
  layoutMarker ++ (List.replicate (layout.pointsStart - layoutMarkerLen) 0 ++
    1 :: List.replicate (layout.pointLen * count - 1 - (layoutMarkerLen - layout.pointsStart)) 0)

/-- The temperature of the point in slot `index`. -/
def targetAt (config : ThermalControlProfileConfig) (index : Fin profileMaxPoints) :
    Option Int16 := config.points[index].map (·.targetTempC)

theorem probe_misread : ∀ layout ∈ all, ∀ count ∈ List.range (profileMaxPoints + 1),
    layout.Carries count → ¬ Unambiguous layout count →
      (startsWith (probe layout count) layout.marker ∧
        (probe layout count).length = layout.pointsStart + layout.pointLen * count) ∧
      ∃ index, targetAt (decodeThermalControlProfile (probe layout count)) index ≠
        targetAt (readAs layout count (probe layout count)) index := by
  decide +kernel

theorem ProfileLayout.le_of_carries {layout : ProfileLayout} {count : ℕ}
    (h : layout.Carries count) : count ≤ profileMaxPoints := by
  cases layout with
  | packed | marked | unmarked _ _ => exact h
  | pointOnly _ => exact le_of_eq h

/-- A layout is recognised on every record with `count` points exactly when no
layout that is tried earlier matches the length. -/
theorem decode_eq_readAs_iff_unambiguous {layout : ProfileLayout}
    (hlisted : layout ∈ all) {count : ℕ} (hcarries : layout.Carries count) :
    (∀ bytes, WrittenIn layout count bytes →
      decodeThermalControlProfile bytes = readAs layout count bytes) ↔
    Unambiguous layout count := by
  constructor
  · intro hread
    by_contra hambiguous
    have hcount : count ∈ List.range (profileMaxPoints + 1) :=
      List.mem_range.mpr (Nat.lt_succ_of_le (le_of_carries hcarries))
    obtain ⟨⟨hmarker, hlength⟩, index, hdiffer⟩ :=
      probe_misread layout hlisted count hcount hcarries hambiguous
    exact hdiffer (by rw [hread _ ⟨hmarker, hlength⟩])
  · intro hunambiguous bytes hwritten
    exact decode_of_unambiguous hlisted hcarries hunambiguous hwritten

theorem decode_eq_readAs_iff_unambiguous_tcp2 : (∀ bytes, WrittenIn .marked 10 bytes →
      decodeThermalControlProfile bytes = readAs .marked 10 bytes) ↔ Unambiguous .marked 10 :=
  decode_eq_readAs_iff_unambiguous (by decide) (by decide)

/-- Five points of the second unmarked layout are 214 bytes, as seven packed points
are: the record is read as packed, although it does not start with the marker. -/
theorem unmarked_profile_read_as_packed :
    ¬ ∀ layout ∈ all, ∀ count, layout.Carries count → ∀ bytes,
      WrittenIn layout count bytes →
        decodeThermalControlProfile bytes = readAs layout count bytes := by
  intro h
  obtain ⟨⟨hmarker, hlength⟩, index, hdiffer⟩ := probe_misread
    (.unmarked settingsPayloadLen pointPayloadLenWithPointHoldOn) (by decide) 5 (by decide)
    (by decide) (by decide)
  exact hdiffer (by rw [h _ (by decide) 5 (by decide) _ ⟨hmarker, hlength⟩])

end FluxPurr.Memory
