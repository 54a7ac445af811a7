import Mathlib.Analysis.SpecialFunctions.Integrals.Basic

/-!
# Piecewise linear functions

A `Piece` is linear between its ends and zero elsewhere.  Over a window it is integrated
exactly by its value in the middle of the overlap (`integral_onPiece`), and a sum of pieces is
integrated piece by piece (`integral_sumOf`).

The area is computed in any ordered field; the integral is taken over the reals.
-/

namespace FluxPurr.Arith

open MeasureTheory

structure Piece (K : Type*) where
  left : K
  right : K
  atLeft : K
  atRight : K

namespace Piece

section

variable {K : Type*} [Field K] [LinearOrder K]

/-- On the line through both ends. -/
def valueAt (piece : Piece K) (x : K) : K :=
  piece.atLeft + (piece.atRight - piece.atLeft) * ((x - piece.left) / (piece.right - piece.left))

/-- The area over the part of the piece between `start` and `stop`. -/
def areaWithin (piece : Piece K) (start stop : K) : K :=
  if min stop piece.right ≤ max start piece.left then 0
  else
    piece.valueAt ((max start piece.left + min stop piece.right) / 2) *
      (min stop piece.right - max start piece.left)

theorem areaWithin_of_le_left {piece : Piece K} {start stop : K}
    (h : stop ≤ piece.left) : piece.areaWithin start stop = 0 :=
  if_pos ((min_le_left _ _).trans (h.trans (le_max_right _ _)))

theorem areaWithin_of_right_le {piece : Piece K} {start stop : K}
    (h : piece.right ≤ start) : piece.areaWithin start stop = 0 :=
  if_pos ((min_le_right _ _).trans (h.trans (le_max_left _ _)))

end

/-! ## Over the reals -/

/-- The piece over the reals. -/
def toReal (piece : Piece ℚ) : Piece ℝ where
  left := piece.left
  right := piece.right
  atLeft := piece.atLeft
  atRight := piece.atRight

theorem areaWithin_toReal (piece : Piece ℚ) (start stop : ℚ) :
    piece.toReal.areaWithin (start : ℝ) stop = (piece.areaWithin start stop : ℝ) := by
  have hstart : max (start : ℝ) piece.left = ((max start piece.left : ℚ) : ℝ) :=
    (Rat.cast_max _ _).symm
  have hstop : min (stop : ℝ) piece.right = ((min stop piece.right : ℚ) : ℝ) :=
    (Rat.cast_min _ _).symm
  unfold areaWithin valueAt toReal
  dsimp only
  rw [hstart, hstop]
  by_cases h : min stop piece.right ≤ max start piece.left
  · rw [if_pos h, if_pos (Rat.cast_le.mpr h), Rat.cast_zero]
  · rw [if_neg h, if_neg (fun hcast => h (Rat.cast_le.mp hcast))]
    push_cast
    rfl

noncomputable section

variable (piece : Piece ℝ)

/-- The piece as a function that is zero outside of it. -/
def onPiece : ℝ → ℝ := Set.indicator (Set.Ioc piece.left piece.right) piece.valueAt

theorem continuous_valueAt : Continuous piece.valueAt := by
  unfold valueAt
  fun_prop

theorem intervalIntegrable_onPiece (start stop : ℝ) :
    IntervalIntegrable piece.onPiece volume start stop := by
  have hline := piece.continuous_valueAt.intervalIntegrable (μ := volume) start stop
  rw [intervalIntegrable_iff] at hline ⊢
  exact hline.indicator measurableSet_Ioc

theorem integral_valueAt (start stop : ℝ) :
    ∫ x in start..stop, piece.valueAt x =
      piece.valueAt ((start + stop) / 2) * (stop - start) := by
  have hline : ∀ x, piece.valueAt x =
      (piece.atLeft - (piece.atRight - piece.atLeft) * (piece.left / (piece.right - piece.left))) +
        (piece.atRight - piece.atLeft) / (piece.right - piece.left) * x := by
    intro x
    unfold valueAt
    ring
  have hslope : IntervalIntegrable
      (fun x => (piece.atRight - piece.atLeft) / (piece.right - piece.left) * x)
      volume start stop := (continuous_const_mul _).intervalIntegrable start stop
  simp only [hline]
  rw [intervalIntegral.integral_add intervalIntegrable_const hslope,
    intervalIntegral.integral_const, intervalIntegral.integral_const_mul, integral_id, smul_eq_mul]
  ring

theorem integral_onPiece {start stop : ℝ} (h : start ≤ stop) :
    ∫ x in start..stop, piece.onPiece x = piece.areaWithin start stop := by
  unfold onPiece
  rw [intervalIntegral.integral_of_le h, setIntegral_indicator measurableSet_Ioc, Set.Ioc_inter_Ioc]
  unfold areaWithin
  split_ifs with hempty
  · rw [Set.Ioc_eq_empty_of_le hempty, setIntegral_empty]
  · rw [← intervalIntegral.integral_of_le (le_of_not_ge hempty), integral_valueAt]

variable (pieces : List (Piece ℝ))

/-- The pieces together. -/
def sumOf (x : ℝ) : ℝ := (pieces.map fun piece => piece.onPiece x).sum

theorem intervalIntegrable_sumOf (start stop : ℝ) :
    IntervalIntegrable (sumOf pieces) volume start stop := by
  induction pieces with
  | nil => exact intervalIntegrable_const
  | cons piece pieces ih => exact (piece.intervalIntegrable_onPiece start stop).add ih

theorem integral_sumOf {start stop : ℝ} (h : start ≤ stop) :
    ∫ x in start..stop, sumOf pieces x =
      (pieces.map fun piece => piece.areaWithin start stop).sum := by
  induction pieces with
  | nil =>
    show ∫ _ in start..stop, (0 : ℝ) = 0
    exact intervalIntegral.integral_zero
  | cons piece pieces ih =>
    have hsum : ∀ x, sumOf (piece :: pieces) x = piece.onPiece x + sumOf pieces x := fun _ => rfl
    simp only [hsum]
    rw [intervalIntegral.integral_add (piece.intervalIntegrable_onPiece start stop)
      (intervalIntegrable_sumOf pieces start stop), integral_onPiece piece h, ih]
    rfl

end

end Piece

end FluxPurr.Arith
