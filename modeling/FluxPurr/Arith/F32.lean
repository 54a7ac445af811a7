import Mathlib.Algebra.Group.Nat.Defs

/-!
# Single precision floating point numbers

`F32` is a binary32 number as its 32 bits.  A finite number is a sign and a
magnitude in units of the smallest subnormal number `2^-149`, so sums, products
and quotients of finite numbers are exact quotients of natural numbers before
they are rounded (`roundMagnitude`, to nearest, ties to even).

NaN results are all the quiet NaN `nan`; the payload of a NaN is not modelled.
-/

namespace FluxPurr

/-- `f32`, by `to_bits`. -/
structure F32 where
  bits : UInt32
deriving DecidableEq, Repr

namespace F32

variable (x : F32)

def exponentField : ℕ := x.bits.toNat / 2 ^ 23 % 2 ^ 8

def fraction : ℕ := x.bits.toNat % 2 ^ 23

/-- The sign bit is set. -/
def isNegative : Bool := 2 ^ 31 ≤ x.bits.toNat

def isFinite : Bool := x.exponentField ≠ 255

def isNan : Bool := x.exponentField = 255 ∧ x.fraction ≠ 0

/-- `x == 0.0`: both zeros are. -/
def isZero : Bool := x.exponentField = 0 ∧ x.fraction = 0

/-- `x == y` of the language: a NaN equals nothing, and the two zeros are equal. -/
def eq (x y : F32) : Bool := !x.isNan && !y.isNan && (x = y || x.isZero && y.isZero)

/-- The magnitude of a finite number in units of `2^-149`. -/
def magnitude : ℕ :=
  if x.exponentField = 0 then x.fraction
  else (2 ^ 23 + x.fraction) * 2 ^ (x.exponentField - 1)

def nan : F32 := ⟨0x7fc00000⟩

/-- `0.0`. -/
def zero : F32 := ⟨0⟩

/-- `1.0`. -/
def one : F32 := ⟨0x3f800000⟩

/-- `f32::EPSILON`. -/
def epsilon : F32 := ⟨0x34000000⟩

def withSign (negative : Bool) (magnitudeBits : ℕ) : F32 :=
  ⟨UInt32.ofNat (magnitudeBits + if negative then 2 ^ 31 else 0)⟩

def infinity (negative : Bool) : F32 := withSign negative 0x7f800000

/-- The quotient rounded to the nearest natural number, ties to even. -/
def roundHalfEven (num den : ℕ) : ℕ :=
  let quotient := num / den
  let rest := 2 * (num % den)
  if den < rest ∨ rest = den ∧ quotient % 2 = 1 then quotient + 1 else quotient

/-- The number nearest to `num / den` units of `2^-149`.  The significand has 24
bits above the subnormal range, and rounding it up to 25 bits carries into the
exponent. -/
def roundMagnitude (negative : Bool) (num den : ℕ) : F32 :=
  let shift := Nat.log2 (num / den) - 23
  let bits := shift * 2 ^ 23 + roundHalfEven num (den * 2 ^ shift)
  if 0x7f800000 ≤ bits then infinity negative else withSign negative bits

/-- `value as f32` of an unsigned integer. -/
def ofNat (value : ℕ) : F32 := roundMagnitude false (value * 2 ^ 149) 1

def neg : F32 := ⟨x.bits ^^^ 0x80000000⟩

/-- `value as f32` of a signed integer. -/
def ofInt (value : Int) : F32 := if value < 0 then neg (ofNat value.natAbs) else ofNat value.toNat

/-- `x as u16`: toward zero, and saturating. -/
def toU16 : UInt16 :=
  if x.isNan ∨ x.isNegative then 0 else UInt16.ofNat (min (x.magnitude / 2 ^ 149) 65535)

def abs : F32 := ⟨x.bits &&& 0x7fffffff⟩

def add (x y : F32) : F32 :=
  if x.isNan ∨ y.isNan then nan
  else if ¬ x.isFinite then (if y.isFinite ∨ x = y then x else nan)
  else if ¬ y.isFinite then y
  else if x.isNegative = y.isNegative then
    roundMagnitude x.isNegative (x.magnitude + y.magnitude) 1
  else if x.magnitude = y.magnitude then zero
  else if y.magnitude < x.magnitude then
    roundMagnitude x.isNegative (x.magnitude - y.magnitude) 1
  else roundMagnitude y.isNegative (y.magnitude - x.magnitude) 1

def sub (x y : F32) : F32 := if y.isNan then nan else add x (neg y)

def mul (x y : F32) : F32 :=
  let negative := x.isNegative ^^ y.isNegative
  if x.isNan ∨ y.isNan then nan
  else if ¬ x.isFinite ∨ ¬ y.isFinite then
    if x.isZero ∨ y.isZero then nan else infinity negative
  else roundMagnitude negative (x.magnitude * y.magnitude) (2 ^ 149)

def div (x y : F32) : F32 :=
  let negative := x.isNegative ^^ y.isNegative
  if x.isNan ∨ y.isNan then nan
  else if ¬ x.isFinite then (if y.isFinite then infinity negative else nan)
  else if ¬ y.isFinite then withSign negative 0
  else if y.isZero then (if x.isZero then nan else infinity negative)
  else roundMagnitude negative (x.magnitude * 2 ^ 149) y.magnitude

/-- `x < y` of the language. -/
def lt (x y : F32) : Bool :=
  if x.isNan ∨ y.isNan then false
  else if x.isZero ∧ y.isZero then false
  else if x.isNegative then
    !y.isNegative || decide (y.abs.bits < x.abs.bits)
  else !y.isNegative && decide (x.abs.bits < y.abs.bits)

def clamp (x lo hi : F32) : F32 := if x.lt lo then lo else if hi.lt x then hi else x

/-! ## Equality -/

theorem isNan_eq_false_of_isFinite {x : F32} (h : x.isFinite) : x.isNan = false := by
  simp only [isFinite, decide_eq_true_eq] at h
  simp [isNan, h]

theorem eq_self {x : F32} (h : x.isNan = false) : x.eq x = true := by simp [eq, h]

theorem eq_congr {x y : F32} (h : x.eq y = true) (z : F32) : x.eq z = y.eq z := by
  simp only [eq, Bool.and_eq_true, Bool.not_eq_true', Bool.or_eq_true, decide_eq_true_eq] at h
  obtain ⟨⟨hx, hy⟩, hsame | ⟨hxzero, hyzero⟩⟩ := h
  · rw [hsame]
  · have hzero : ∀ w : F32, w.isNan = false → w.isZero = true →
        w.eq z = (!z.isNan && z.isZero) := by
      intro w hw hwzero
      by_cases hsame : w = z
      · simp [eq, ← hsame, hw, hwzero]
      · simp [eq, hsame, hw, hwzero]
    rw [hzero x hx hxzero, hzero y hy hyzero]

end F32

end FluxPurr
