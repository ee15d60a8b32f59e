import AreaOfInterest.Proofs.FlatWorld
import Mathlib.Analysis.SpecialFunctions.Log.Base
import Mathlib.Analysis.SpecialFunctions.Pow.Real
import Mathlib.Analysis.SpecialFunctions.Trigonometric.Arctan

/-!
# Exact scalars

Scalars that are read as real numbers, with an arithmetic and an order that are those of real numbers. Nothing is lost
to rounding, so what the map does can be reckoned with on the real line.

The real numbers themselves are such scalars, with the functions that the projection is made of. So are the rational
ones of the flat world.
-/

namespace AreaOfInterest

/-- Scalars that are real numbers, as far as arithmetic, order and rounding to whole numbers go. -/
class Exact (α : Type) [Scalar α] where
  /-- The real number that is meant. -/
  real : α → ℝ
  real_injective : Function.Injective real
  real_add (x y : α) : real (x + y) = real x + real y
  real_sub (x y : α) : real (x - y) = real x - real y
  real_mul (x y : α) : real (x * y) = real x * real y
  real_div (x y : α) : real (x / y) = real x / real y
  real_neg (x : α) : real (-x) = -real x
  real_ofScientific (mantissa : Nat) (sign : Bool) (exponent : Nat) :
    real (OfScientific.ofScientific mantissa sign exponent) = OfScientific.ofScientific mantissa sign exponent
  real_ceil (x : α) : real (Scalar.ceil x) = ⌈real x⌉
  lt_iff (x y : α) : x < y ↔ real x < real y
  le_iff (x y : α) : x ≤ y ↔ real x ≤ real y
  beq_iff (x y : α) : x == y ↔ x = y
  pi_pos : 0 < real Scalar.pi

/-- Real numbers, with the functions of the projection as they are. -/
noncomputable instance : Scalar ℝ where
  beq x y := decide (x = y)
  decideLT := inferInstance
  decideLE := inferInstance
  sortsBefore x y := decide (x ≤ y)
  isFinite _ := true
  isNaN _ := false
  abs x := |x|
  floor x := ⌊x⌋
  ceil x := ⌈x⌉
  round x := if x < 0 then -⌊-x + 1 / 2⌋ else ⌊x + 1 / 2⌋
  toInt32 x := max (-2147483648) (min 2147483647 (if x < 0 then ⌈x⌉ else ⌊x⌋))
  pi := Real.pi
  tan := Real.tan
  atan := Real.arctan
  exp := Real.exp
  log := Real.log
  exp2 x := 2 ^ x
  log2 x := Real.logb 2 x

noncomputable instance : Exact ℝ where
  real := id
  real_injective := Function.injective_id
  real_add _ _ := rfl
  real_sub _ _ := rfl
  real_mul _ _ := rfl
  real_div _ _ := rfl
  real_neg _ := rfl
  real_ofScientific _ _ _ := rfl
  real_ceil _ := rfl
  lt_iff _ _ := .rfl
  le_iff _ _ := .rfl
  beq_iff _ _ := decide_eq_true_iff
  pi_pos := Real.pi_pos

noncomputable instance : Exact Rat where
  real x := x
  real_injective := Rat.cast_injective
  real_add := Rat.cast_add
  real_sub := Rat.cast_sub
  real_mul := Rat.cast_mul
  real_div := Rat.cast_div
  real_neg := Rat.cast_neg
  real_ofScientific := Rat.cast_ofScientific
  real_ceil x := by
    have hceil : x.ceil = ⌈x⌉ := eq_of_forall_ge_iff fun n => Rat.ceil_le_iff.trans Int.ceil_le.symm
    have h : Scalar.ceil x = (x.ceil : Rat) := rfl
    rw [h, hceil, Rat.ceil_cast, Rat.cast_intCast]
  lt_iff _ _ := Rat.cast_lt.symm
  le_iff _ _ := Rat.cast_le.symm
  beq_iff _ _ := beq_iff_eq
  pi_pos := by
    have h : (Scalar.pi : Rat) = 180 := rfl
    rw [h]
    norm_num

/-- Zero as a real number. -/
theorem Exact.real_zero {α : Type} [Scalar α] [Exact α] : real (0.0 : α) = 0 := by
  rw [real_ofScientific]
  norm_num

/-- A natural number as a real one. -/
theorem Exact.real_ofNat {α : Type} [Scalar α] [Exact α] (n : Nat) : real (Scalar.ofNat n : α) = n := by
  have h : (OfScientific.ofScientific n false 0 : ℝ) = ((Rat.ofScientific n false 0 : ℚ) : ℝ) :=
    (Rat.cast_ofScientific n false 0).symm
  rw [Scalar.ofNat, real_ofScientific, h, Rat.ofScientific_false_def, pow_zero, mul_one, Rat.cast_natCast]

/-- With exact scalars, what is the same as a number is that number. -/
theorem Exact.lawfulBEq (α : Type) [Scalar α] [Exact α] : LawfulBEq α where
  eq_of_beq h := (beq_iff _ _).mp h
  rfl := (beq_iff _ _).mpr rfl

/-- Exact scalars whose distance from zero is that of real numbers. -/
class ExactDistance (α : Type) [Scalar α] [Exact α] : Prop where
  real_abs (x : α) : Exact.real (Scalar.abs x) = |Exact.real x|

instance : ExactDistance ℝ where
  real_abs _ := rfl

instance : ExactDistance Rat where
  real_abs x := by
    have habs : Scalar.abs x = |x| := by
      change (if x < 0 then -x else x) = |x|
      split
      · next h => exact (abs_of_neg h).symm
      · next h => exact (abs_of_nonneg (not_lt.mp h)).symm
    rw [habs]
    exact Rat.cast_abs x

end AreaOfInterest
