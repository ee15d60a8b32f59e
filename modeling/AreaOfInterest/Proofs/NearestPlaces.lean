import AreaOfInterest.Proofs.Rounding

/-!
# The nearest value of five places

Rounding goes to the value on the grid of hundred-thousandths that is nearest, and of two that are as near to the one
further from zero. There is one such value only, so that this says which one it is. What is on the grid stays, opposite
values stay opposite, and the order is kept.

No value of the grid is further than half a step from what is rounded to it.
-/

namespace AreaOfInterest

open Exact

/-- What is not negative is rounded as usual, halves going up. -/
theorem nearest_of_nonneg {x : ℝ} (nonneg : 0 ≤ x) : nearest x = round x :=
  if_neg (not_lt.mpr nonneg)

/-- No whole number is nearer. -/
theorem abs_sub_nearest_le (x : ℝ) (n : ℤ) : |x - nearest x| ≤ |x - n| := by
  obtain hneg | hnonneg := lt_or_ge x 0
  · -- Both distances are those from the opposite number.
    have hround := round_le (-x) (-n)
    rw [← nearest_of_nonneg (by linarith), nearest_neg, Int.cast_neg, Int.cast_neg] at hround
    rwa [neg_sub_neg, neg_sub_neg, abs_sub_comm, abs_sub_comm (n : ℝ)] at hround
  · rw [nearest_of_nonneg hnonneg]
    exact round_le x n

/-- The nearest whole number is at most a half away. -/
theorem abs_sub_nearest_le_half (x : ℝ) : |x - nearest x| ≤ 2⁻¹ := by
  rw [← one_div]
  exact (abs_sub_nearest_le x (round x)).trans (abs_sub_round x)

/-- Of two whole numbers that are as near, the nearest one is the one further from zero. -/
theorem abs_le_abs_nearest {x : ℝ} {n : ℤ} (near : |x - n| ≤ 2⁻¹) : |n| ≤ |nearest x| := by
  have hnonneg {y : ℝ} {m : ℤ} (hy : 0 ≤ y) (hm : |y - m| ≤ 2⁻¹) : |m| ≤ |nearest y| := by
    obtain ⟨hlow, hhigh⟩ := abs_le.mp hm
    have hupper : m ≤ nearest y := by
      rw [nearest_of_nonneg hy, round_eq, Int.le_floor]
      linarith
    have hlower : -1 < m := by
      have : (-1 : ℝ) < m := by linarith
      exact_mod_cast this
    rw [abs_of_nonneg (by omega)]
    exact hupper.trans (le_abs_self _)
  obtain hneg | hpos := lt_or_ge x 0
  · have hopposite : |-n| ≤ |nearest (-x)| := by
      refine hnonneg (by linarith) ?_
      rwa [Int.cast_neg, neg_sub_neg, abs_sub_comm]
    rwa [nearest_neg, abs_neg, abs_neg] at hopposite
  · exact hnonneg hpos near

namespace Mercator

variable {α : Type} [Scalar α] [Exact α]

/-- A whole number of hundred-thousandths. -/
def OnPlaces (x : α) : Prop := ∃ n : ℤ, real x * 100000 = n

/-- The value on the grid that is nearest, the one further from zero where two are as near. -/
structure IsNearest (x y : α) : Prop where
  onPlaces : OnPlaces y
  near : ∀ z : α, OnPlaces z → |real x - real y| ≤ |real x - real z|
  away : ∀ z : α, OnPlaces z → |real x - real z| = |real x - real y| → |real z| ≤ |real y|

/-- The grid is the same on either side of zero. -/
theorem OnPlaces.neg {x : α} (onPlaces : OnPlaces x) : OnPlaces (-x) := by
  obtain ⟨n, hn⟩ := onPlaces
  exact ⟨-n, by rw [real_neg, neg_mul, hn, Int.cast_neg]⟩

/-- Zero is on the grid. -/
theorem onPlaces_zero : OnPlaces (0.0 : α) := ⟨0, by rw [real_zero, zero_mul, Int.cast_zero]⟩

/-- The distance from an opposite is that of the opposites. -/
theorem abs_real_neg_sub (x y : α) : |real (-x) - real y| = |real x - real (-y)| := by
  rw [real_neg, real_neg, abs_sub_comm]
  congr 1
  ring

namespace IsNearest

variable {x y z : α}

/-- Opposite values have opposite nearest ones. -/
theorem neg (nearest : IsNearest x y) : IsNearest (-x) (-y) where
  onPlaces := nearest.onPlaces.neg
  near z hz := by
    rw [abs_real_neg_sub, abs_real_neg_sub, real_neg, real_neg, neg_neg]
    exact nearest.near (-z) hz.neg
  away z hz tie := by
    rw [abs_real_neg_sub, abs_real_neg_sub, real_neg (-y), real_neg y, neg_neg] at tie
    have hle := nearest.away (-z) hz.neg tie
    rwa [real_neg, abs_neg, ← abs_neg (real y), ← real_neg] at hle

/-- There is one nearest value only. -/
theorem unique (nearest : IsNearest x y) (other : IsNearest x z) : y = z := by
  have hnear : |real x - real y| = |real x - real z| :=
    le_antisymm (nearest.near z other.onPlaces) (other.near y nearest.onPlaces)
  have haway : |real y| = |real z| :=
    le_antisymm (other.away y nearest.onPlaces hnear) (nearest.away z other.onPlaces hnear.symm)
  obtain hsame | hopposite := abs_eq_abs.mp haway
  · exact real_injective hsame
  obtain hsame | hacross := abs_eq_abs.mp hnear
  · exact real_injective (by linarith)
  -- Two opposite values are as near to zero only, which is nearer to itself.
  · have hx : real x = 0 := by linarith
    have hzero := nearest.near 0.0 onPlaces_zero
    rw [real_zero, hx, sub_zero, abs_zero, zero_sub, abs_neg, abs_nonpos_iff] at hzero
    exact real_injective (by linarith)

end IsNearest

/-- On the grid, distances are those of whole numbers. -/
theorem abs_real_sub_mul (x : α) {y : α} {n : ℤ} (hn : real y * 100000 = n) :
    |real x - real y| * 100000 = |real x * 100000 - n| := by
  rw [← hn, ← sub_mul, abs_mul, abs_of_pos (by norm_num : (0 : ℝ) < 100000)]

variable [ExactRounding α]

/-- Rounding goes to the nearest value. -/
theorem isNearest_truncate (x : α) : IsNearest x (truncate x) where
  onPlaces := ⟨_, real_truncate x⟩
  near z hz := by
    obtain ⟨n, hn⟩ := hz
    have hle := abs_sub_nearest_le (real x * 100000) n
    rw [← abs_real_sub_mul x hn, ← abs_real_sub_mul x (real_truncate x)] at hle
    exact le_of_mul_le_mul_right hle (by norm_num)
  away z hz tie := by
    obtain ⟨n, hn⟩ := hz
    have hnear : |real x * 100000 - n| ≤ 2⁻¹ := by
      rw [← abs_real_sub_mul x hn, tie, abs_real_sub_mul x (real_truncate x)]
      exact abs_sub_nearest_le_half _
    have hle : (|n| : ℝ) ≤ |(nearest (real x * 100000) : ℝ)| := by exact_mod_cast abs_le_abs_nearest hnear
    rw [← hn, ← real_truncate, abs_mul, abs_mul] at hle
    exact le_of_mul_le_mul_right hle (by norm_num)

/-- The rounded value is the nearest one. -/
theorem truncate_eq_iff {x y : α} : truncate x = y ↔ IsNearest x y := by
  constructor
  · rintro rfl
    exact isNearest_truncate x
  · exact (isNearest_truncate x).unique

/-- Half a step is the most that a value is moved. -/
theorem abs_real_truncate_sub_le (x : α) : |real (truncate x) - real x| ≤ real (0.000005 : α) := by
  have hstep : real (0.000005 : α) * 100000 = 2⁻¹ := by
    rw [real_ofScientific]
    norm_num
  have hle := abs_sub_nearest_le_half (real x * 100000)
  rw [← abs_real_sub_mul x (real_truncate x), abs_sub_comm, ← hstep] at hle
  exact le_of_mul_le_mul_right hle (by norm_num)

/-- Rounding goes to the nearest value of five places, the one further from zero of two. Rounding once is enough, the
order is kept and so are opposites, and no value is moved by more than half a step. -/
theorem truncates_to_nearest :
    (∀ x y : α, truncate x = y ↔ IsNearest x y) ∧
      (∀ x : α, truncate (truncate x) = truncate x) ∧
      (∀ x y : α, x ≤ y → truncate x ≤ truncate y) ∧
      (∀ x : α, truncate (-x) = -truncate x) ∧
      ∀ x : α, |real (truncate x) - real x| ≤ real (0.000005 : α) := by
  refine ⟨fun x y => truncate_eq_iff, truncate_truncate, fun x y hle => ?_, fun x => ?_, abs_real_truncate_sub_le⟩
  · rw [le_iff] at hle ⊢
    exact real_truncate_mono hle
  · exact truncate_eq_iff.mpr (isNearest_truncate x).neg

/-- Halves of a step go away from zero on either side of it. -/
theorem truncates_to_nearest_halves :
    truncate (0.000015 : Rat) = 0.00002 ∧ truncate (-0.000015 : Rat) = -0.00002 ∧
      IsNearest (0.000015 : Rat) 0.00002 ∧ truncate (-0.000015 : Rat) ≤ truncate 0.000015 := by
  obtain ⟨hnearest, -, hmono, hneg, -⟩ := truncates_to_nearest (α := Rat)
  have hup : truncate (0.000015 : Rat) = 0.00002 := by decide +kernel
  refine ⟨hup, ?_, (hnearest _ _).mp hup, hmono _ _ (by decide +kernel)⟩
  rw [hneg, hup]

end Mercator

end AreaOfInterest
