import Mathlib.Order.MinMax

/-!
# The component of a point in a family of intervals

Intervals are joined if they share a point.  The component of a point consists of what the
intervals cover that are joined, directly or through others, with one that covers the point.
It is an interval again: it is grown one interval at a time (`Fills.growHigh`,
`Fills.growLow`), and what no interval leaves at either end is all of it
(`Fills.component_iff`).
-/

namespace FluxPurr.Collections

variable {ι α : Type*} [LinearOrder α]

/-- Closed intervals, of which some count. -/
structure IntervalFamily (ι α : Type*) where
  counts : ι → Prop
  lowest : ι → α
  highest : ι → α

namespace IntervalFamily

variable {family : IntervalFamily ι α} {anchor low high v w : α} {i : ι}

def Covers (family : IntervalFamily ι α) (i : ι) (v : α) : Prop :=
  family.lowest i ≤ v ∧ v ≤ family.highest i

/-- The second interval counts, and it shares a point with the first one. -/
def Joined (family : IntervalFamily ι α) (i j : ι) : Prop :=
  family.counts j ∧ ∃ v, family.Covers i v ∧ family.Covers j v

def Component (family : IntervalFamily ι α) (anchor v : α) : Prop :=
  ∃ first last, family.counts first ∧ family.Covers first anchor ∧
    Relation.ReflTransGen family.Joined first last ∧ family.Covers last v

theorem Component.of_covers (hcounts : family.counts i) (hanchor : family.Covers i anchor)
    (hcovers : family.Covers i v) : family.Component anchor v :=
  ⟨i, i, hcounts, hanchor, .refl, hcovers⟩

theorem Component.extend (h : family.Component anchor v) (hcounts : family.counts i)
    (hv : family.Covers i v) (hw : family.Covers i w) : family.Component anchor w := by
  obtain ⟨first, last, hfirst, hanchor, hchain, hlast⟩ := h
  exact ⟨first, i, hfirst, hanchor, hchain.tail ⟨hcounts, v, hlast, hv⟩, hw⟩

/-- Everything from `low` to `high` belongs to the component of a point between them. -/
structure Fills (family : IntervalFamily ι α) (anchor low high : α) : Prop where
  low_le : low ≤ anchor
  le_high : anchor ≤ high
  component : ∀ v, low ≤ v → v ≤ high → family.Component anchor v

theorem Fills.growHigh (h : family.Fills anchor low high) (hcounts : family.counts i)
    (hlow : family.lowest i ≤ high) (hhigh : high ≤ family.highest i) :
    family.Fills anchor low (family.highest i) where
  low_le := h.low_le
  le_high := h.le_high.trans hhigh
  component v hv hle := by
    rcases le_total v high with hinside | houtside
    · exact h.component v hv hinside
    · have hend := h.component high (h.low_le.trans h.le_high) le_rfl
      exact hend.extend hcounts ⟨hlow, hhigh⟩ ⟨hlow.trans houtside, hle⟩

theorem Fills.growLow (h : family.Fills anchor low high) (hcounts : family.counts i)
    (hhigh : low ≤ family.highest i) (hlow : family.lowest i ≤ low) :
    family.Fills anchor (family.lowest i) high where
  low_le := hlow.trans h.low_le
  le_high := h.le_high
  component v hle hv := by
    rcases le_total low v with hinside | houtside
    · exact h.component v hinside hv
    · have hend := h.component low le_rfl (h.low_le.trans h.le_high)
      exact hend.extend hcounts ⟨hlow, hhigh⟩ ⟨hle, houtside.trans hhigh⟩

theorem Fills.component_iff (h : family.Fills anchor low high)
    (hhigh : ∀ i, family.counts i → family.lowest i ≤ high → family.highest i ≤ high)
    (hlow : ∀ i, family.counts i → low ≤ family.highest i → low ≤ family.lowest i) :
    family.Component anchor v ↔ low ≤ v ∧ v ≤ high := by
  -- an interval that covers a point between the ends lies between them
  have hwithin (i : ι) (hcounts : family.counts i) (v : α) (hv : family.Covers i v)
      (hle : low ≤ v) (hge : v ≤ high) : low ≤ family.lowest i ∧ family.highest i ≤ high :=
    ⟨hlow i hcounts (hle.trans hv.2), hhigh i hcounts (hv.1.trans hge)⟩
  constructor
  · rintro ⟨first, last, hfirst, hanchor, hchain, hlast⟩
    have hends : low ≤ family.lowest last ∧ family.highest last ≤ high := by
      clear hlast
      induction hchain with
      | refl => exact hwithin first hfirst anchor hanchor h.low_le h.le_high
      | tail _ hjoined ih =>
        obtain ⟨hcounts, w, hbefore, hw⟩ := hjoined
        exact hwithin _ hcounts w hw (ih.1.trans hbefore.1) (hbefore.2.trans ih.2)
    exact ⟨hends.1.trans hlast.1, hlast.2.trans hends.2⟩
  · rintro ⟨hle, hge⟩
    exact h.component v hle hge

end IntervalFamily

end FluxPurr.Collections
