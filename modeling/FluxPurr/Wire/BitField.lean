import Mathlib.Data.List.Basic
import Mathlib.Data.Nat.Bitwise

/-!
# Fields of a packed word

A packed word is built by shifting every field to its place and joining the
results with a bitwise or (`orFields`); a reader shifts back down and masks
(`bitField`).  The writer does not check that a value fits its field, so a value
that is too large spills into the fields above it.

## Strategy

`bitField` distributes over the or, and a shifted value is invisible outside
its own window as long as it fits (`bitField_shiftLeft_of_apart`).  For pairwise
disjoint windows this leaves one summand, the field itself (`bitField_orFields`).
-/

namespace FluxPurr.Wire

/-- The `width` bits of `word` from bit `shift` on: `(word >> shift) & (2^width - 1)`. -/
def bitField (word shift width : ℕ) : ℕ := (word >>> shift) &&& (2 ^ width - 1)

theorem testBit_bitField (word shift width i : ℕ) :
    (bitField word shift width).testBit i = (word.testBit (shift + i) && decide (i < width)) := by
  simp only [bitField, Nat.testBit_and, Nat.testBit_shiftRight, Nat.testBit_two_pow_sub_one]

theorem bitField_lt (word shift width : ℕ) : bitField word shift width < 2 ^ width := by
  have hpos : 0 < 2 ^ width := Nat.two_pow_pos width
  have hle : bitField word shift width ≤ 2 ^ width - 1 := Nat.and_le_right
  omega

theorem bitField_or (a b shift width : ℕ) :
    bitField (a ||| b) shift width = bitField a shift width ||| bitField b shift width := by
  apply Nat.eq_of_testBit_eq
  intro i
  simp only [testBit_bitField, Nat.testBit_or]
  cases a.testBit (shift + i) <;> cases b.testBit (shift + i) <;> simp

theorem bitField_mod {shift width size : ℕ} (h : shift + width ≤ size) (word : ℕ) :
    bitField (word % 2 ^ size) shift width = bitField word shift width := by
  apply Nat.eq_of_testBit_eq
  intro i
  simp only [testBit_bitField, Nat.testBit_mod_two_pow]
  by_cases hi : i < width
  · have hin : shift + i < size := by omega
    simp [hi, hin]
  · simp [hi]

theorem bitField_shiftLeft {value width : ℕ} (h : value < 2 ^ width) (shift : ℕ) :
    bitField (value <<< shift) shift width = value := by
  rw [bitField, Nat.shiftLeft_shiftRight, Nat.and_two_pow_sub_one_eq_mod, Nat.mod_eq_of_lt h]

/-! ## Joining fields -/

/-- A value shifted to bit `shift`, with `width` bits reserved for it. -/
structure PlacedField where
  value : ℕ
  shift : ℕ
  width : ℕ

namespace PlacedField

/-- The value fits the bits reserved for it. -/
def Fits (field : PlacedField) : Prop := field.value < 2 ^ field.width

/-- The reserved bits of two fields do not overlap. -/
def Apart (field other : PlacedField) : Prop :=
  field.shift + field.width ≤ other.shift ∨ other.shift + other.width ≤ field.shift

instance (field other : PlacedField) : Decidable (Apart field other) :=
  inferInstanceAs (Decidable (_ ∨ _))

theorem Apart.symm {field other : PlacedField} (h : Apart field other) : Apart other field :=
  Or.symm h

end PlacedField

/-- The word `f₀.value << f₀.shift | f₁.value << f₁.shift | …`. -/
def orFields : List PlacedField → ℕ
  | [] => 0
  | field :: rest => field.value <<< field.shift ||| orFields rest

/-- A field that fits is not seen in a window apart from its own. -/
theorem bitField_shiftLeft_of_apart {field other : PlacedField} (hfits : other.Fits)
    (hapart : PlacedField.Apart field other) :
    bitField (other.value <<< other.shift) field.shift field.width = 0 := by
  apply Nat.eq_of_testBit_eq
  intro i
  rw [testBit_bitField, Nat.zero_testBit, Nat.testBit_shiftLeft]
  by_cases hi : i < field.width
  · rcases hapart with hbelow | habove
    · have hlow : ¬ field.shift + i ≥ other.shift := by omega
      simp [hlow]
    · have hhigh : other.value.testBit (field.shift + i - other.shift) = false := by
        apply Nat.testBit_lt_two_pow
        refine lt_of_lt_of_le hfits (Nat.pow_le_pow_right (by decide) ?_)
        omega
      simp [hhigh]
  · simp [hi]

theorem bitField_orFields_of_apart {field : PlacedField} {fields : List PlacedField}
    (hfits : ∀ other ∈ fields, other.Fits)
    (hapart : ∀ other ∈ fields, PlacedField.Apart field other) :
    bitField (orFields fields) field.shift field.width = 0 := by
  induction fields with
  | nil => simp [orFields, bitField]
  | cons other rest ih =>
    have hother : bitField (other.value <<< other.shift) field.shift field.width = 0 :=
      bitField_shiftLeft_of_apart (hfits other (by simp)) (hapart other (by simp))
    rw [orFields, bitField_or, hother, Nat.zero_or]
    exact ih (fun o ho => hfits o (by simp [ho])) (fun o ho => hapart o (by simp [ho]))

theorem bitField_orFields {fields : List PlacedField} (hfits : ∀ field ∈ fields, field.Fits)
    (hapart : fields.Pairwise PlacedField.Apart) {field : PlacedField} (hmem : field ∈ fields) :
    bitField (orFields fields) field.shift field.width = field.value := by
  induction fields with
  | nil => simp at hmem
  | cons other rest ih =>
    obtain ⟨hhead, htail⟩ := List.pairwise_cons.mp hapart
    have hrest : ∀ o ∈ rest, o.Fits := fun o ho => hfits o (by simp [ho])
    rw [orFields, bitField_or]
    rcases List.mem_cons.mp hmem with rfl | hin
    · have hself : field.value < 2 ^ field.width := hfits field (by simp)
      rw [bitField_shiftLeft hself, bitField_orFields_of_apart hrest hhead, Nat.or_zero]
    · have hgone := bitField_shiftLeft_of_apart (hfits other (by simp)) (hhead field hin).symm
      rw [hgone, Nat.zero_or]
      exact ih hrest htail hin

end FluxPurr.Wire
