import Mathlib.Analysis.Real.Pi.Bounds
import Mathlib.Analysis.SpecialFunctions.Trigonometric.ArctanDeriv
import AreaOfInterest.Proofs.Longitudes

/-!
# The edge of the square

The latitude at which the projected world becomes a square is given to sixteen digits, and has to be cut off on the
right side: a latitude beyond the true edge would be moved to the edge when it is projected, and not come back. It is cut
off below, by less than the seventeenth digit. So with real numbers projecting can be undone on all latitudes up to the
one that is given.
-/

namespace AreaOfInterest

open Real Finset

/-- The arc tangent is at most what an odd number of terms of its series come to. -/
theorem arctan_le_sum (n : ℕ) {u : ℝ} (nonneg : 0 ≤ u) :
    arctan u ≤ ∑ k ∈ range (2 * n + 1), (-1) ^ k * u ^ (2 * k + 1) / (2 * k + 1) := by
  have hterm (k : ℕ) (x : ℝ) :
      HasDerivAt (fun x : ℝ => (-1) ^ k * x ^ (2 * k + 1) / (2 * k + 1)) ((-x ^ 2) ^ k) x := by
    have hpower := ((hasDerivAt_pow (2 * k + 1) x).const_mul ((-1 : ℝ) ^ k)).div_const (2 * k + 1)
    refine hpower.congr_deriv ?_
    rw [Nat.add_sub_cancel, pow_mul, neg_pow (x ^ 2)]
    push_cast
    field_simp
  have hsum (x : ℝ) := HasDerivAt.fun_sum fun k (_ : k ∈ range (2 * n + 1)) => hterm k x
  -- The derivatives differ by the remainder of a geometric sum, which is no less than zero for an odd number of terms.
  have hslope (x : ℝ) : 0 ≤ ∑ k ∈ range (2 * n + 1), (-x ^ 2) ^ k - 1 / (1 + x ^ 2) := by
    have hgeometric := geom_sum_mul_neg (-x ^ 2) (2 * n + 1)
    rw [sub_neg_eq_add, (odd_two_mul_add_one n).neg_pow, sub_neg_eq_add] at hgeometric
    rw [sub_nonneg, div_le_iff₀ (by positivity), hgeometric]
    exact le_add_of_nonneg_right (by positivity)
  have hmono := monotone_of_hasDerivAt_nonneg (fun x => (hsum x).sub (hasDerivAt_arctan x)) hslope
  simpa using hmono nonneg

/-- A lower bound for the number of which half the world is the logarithm. -/
theorem le_exp_pi : 23.140692632779265 ≤ exp π := by
  have hseries := sum_le_exp_of_nonneg (x := 3.14159265358979323846) (by norm_num) 28
  have hpi : exp 3.14159265358979323846 ≤ exp π := exp_le_exp.mpr pi_gt_d20.le
  refine le_trans ?_ (hseries.trans hpi)
  norm_num [sum_range_succ, Nat.factorial]

/-- Half the angle from the pole to the latitude that is given is no less than it is for a square. -/
theorem arctan_exp_neg_pi_le : arctan (exp (-π)) ≤ π * (90 - 85.05112877980659) / 360 := by
  have hsmall : exp (-π) ≤ 1 / 23.140692632779265 := by
    rw [exp_neg, ← one_div]
    exact one_div_le_one_div_of_le (by norm_num) le_exp_pi
  have hseries := arctan_le_sum 3 (u := 1 / 23.140692632779265) (by norm_num)
  calc arctan (exp (-π))
    _ ≤ arctan (1 / 23.140692632779265) := arctan_mono hsmall
    _ ≤ 3.14159265358979323846 * (90 - 85.05112877980659) / 360 := by
      refine hseries.trans ?_
      norm_num [sum_range_succ]
    _ ≤ π * (90 - 85.05112877980659) / 360 := by linarith [pi_gt_d20]

namespace Mercator

/-- The angle whose tangent is stretched to a northing. It is 45 degrees on the equator. -/
def stretched {α : Type} [Scalar α] (latitude : α) : α := Scalar.pi / 4.0 + radians latitude / 2.0

/-- The angle as a real number. -/
theorem stretched_eq (y : ℝ) : stretched y = π / 4 + y * (π / 180) / 2 := by
  change π / 4.0 + y * (π / 180.0) / 2.0 = _
  norm_num

/-- Latitudes that are on the map have an angle between those of the two edges of the square. -/
theorem stretched_mem {y : ℝ} (south : -maxLatitude ≤ y) (north : y ≤ maxLatitude) :
    stretched y ∈ Set.Icc (arctan (exp (-π))) (arctan (exp π)) := by
  have hmax : (maxLatitude : ℝ) = 85.05112877980659 := rfl
  have hedge := arctan_exp_neg_pi_le
  have hpole : arctan (exp π) = π / 2 - arctan (exp (-π)) := by
    rw [exp_neg, arctan_inv_of_pos (exp_pos π)]
    ring
  rw [hmax] at south north
  have hsouth := mul_le_mul_of_nonneg_left south pi_pos.le
  have hnorth := mul_le_mul_of_nonneg_left north pi_pos.le
  rw [hpole, stretched_eq]
  constructor <;> linarith

variable {y : ℝ}

/-- It is less than a right angle to either side. -/
theorem stretched_mem_Ioo (south : -maxLatitude ≤ y) (north : y ≤ maxLatitude) :
    stretched y ∈ Set.Ioo (-(π / 2)) (π / 2) := by
  obtain ⟨hlower, hupper⟩ := stretched_mem south north
  exact ⟨(neg_pi_div_two_lt_arctan _).trans_le hlower, hupper.trans_lt (arctan_lt_pi_div_two _)⟩

/-- Its tangent is between those at the two edges of the square. -/
theorem tan_stretched_mem (south : -maxLatitude ≤ y) (north : y ≤ maxLatitude) :
    tan (stretched y) ∈ Set.Icc (exp (-π)) (exp π) := by
  have hangle := stretched_mem_Ioo south north
  obtain ⟨hlower, hupper⟩ := stretched_mem south north
  have hmono := strictMonoOn_tan.monotoneOn
  constructor
  · rw [← tan_arctan (exp (-π))]
    exact hmono (arctan_mem_Ioo _) hangle hlower
  · rw [← tan_arctan (exp π)]
    exact hmono hangle (arctan_mem_Ioo _) hupper

/-- The northing of a latitude that is on the map is the logarithm of this tangent, which is on the map as well. -/
theorem northing_eq (south : -maxLatitude ≤ y) (north : y ≤ maxLatitude) :
    northing y = 6378137 * log (tan (stretched y)) := by
  obtain ⟨hlower, hupper⟩ := tan_stretched_mem south north
  have htan : 0 < tan (stretched y) := (exp_pos _).trans_le hlower
  have hlog : 6378137 * log (tan (stretched y)) ∈ Set.Icc (-halfWorld : ℝ) halfWorld := by
    have hworld : (halfWorld : ℝ) = π * 6378137 := real_halfWorld (α := ℝ)
    rw [hworld]
    rw [← le_log_iff_exp_le htan] at hlower
    rw [← log_le_iff_le_exp htan] at hupper
    constructor <;> linarith
  have hinside : Scalar.clamp (-maxLatitude) maxLatitude y = y := Wrap.clamp_of_mem ⟨south, north⟩
  have hradius : (earthRadius : ℝ) = 6378137 := real_earthRadius (α := ℝ)
  have hclamped : northing y = Scalar.clamp (-halfWorld) halfWorld (6378137 * log (tan (stretched y))) := by
    rw [northing, hinside, hradius]
    rfl
  rw [hclamped]
  exact Wrap.clamp_of_mem hlog

/-- A latitude that is on the map comes back from its northing. -/
theorem latitude_northing (south : -maxLatitude ≤ y) (north : y ≤ maxLatitude) : latitude (northing y) = y := by
  have hangle := stretched_mem_Ioo south north
  have htan : 0 < tan (stretched y) := (exp_pos _).trans_le (tan_stretched_mem south north).1
  have hradius : (earthRadius : ℝ) = 6378137 := real_earthRadius (α := ℝ)
  have hunscaled : northing y / (earthRadius : ℝ) = log (tan (stretched y)) := by
    rw [northing_eq south north, hradius]
    exact mul_div_cancel_left₀ _ (by norm_num)
  change (2.0 * arctan (exp (northing y / (earthRadius : ℝ))) - π / 2.0) * (180.0 / π) = y
  have htwo : (2.0 : ℝ) = 2 := by norm_num
  have hhalfTurn : (180.0 : ℝ) = 180 := real_halfTurn (α := ℝ)
  have hpi := pi_pos.ne'
  rw [hunscaled, exp_log htan, arctan_tan hangle.1 hangle.2, stretched_eq, htwo, hhalfTurn]
  field_simp
  ring

/-- A longitude comes back from its easting. -/
theorem longitude_easting {α : Type} [Scalar α] [Exact α] (x : α) : longitude (easting x) = x := by
  have hpos := real_halfWorld_pos (α := α)
  have hscaled := real_longitude (easting x)
  rw [mul_comm 180, real_easting] at hscaled
  exact Exact.real_injective (mul_right_cancel₀ hpos.ne' hscaled)

/-- With real numbers coming back from the map is exact up to the edges of the square. -/
instance : Invertible ℝ where
  unproject_project {c} south north := by
    rw [unproject, project, longitude_easting, latitude_northing south north]

end Mercator

end AreaOfInterest
