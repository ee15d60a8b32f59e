import AreaOfInterest.Proofs.OrderedArithmetic
import AreaOfInterest.Proofs.Rounding
import AreaOfInterest.Geometry.Backend

/-!
# Platforms

Doubles take rounding to whole numbers and the transcendental functions from the platform that they are computed on.
Here a platform is any choice of these functions, and its numbers are doubles with them.

What is shown of the numbers of every platform is so on the one at hand, whatever its functions are.
-/

namespace AreaOfInterest

/-- The functions that doubles take from a platform. -/
structure Platform where
  floor : Float → Float
  ceil : Float → Float
  round : Float → Float
  tan : Float → Float
  atan : Float → Float
  exp : Float → Float
  log : Float → Float
  exp2 : Float → Float
  log2 : Float → Float

/-- A whole number less than half a unit away is the nearest one. -/
theorem nearest_of_abs_sub_lt {q : ℝ} {n : ℤ} (near : |q - n| < 2⁻¹) : nearest q = n := by
  obtain ⟨hlow, hhigh⟩ := abs_lt.mp near
  rw [nearest]
  split
  · rw [neg_eq_iff_eq_neg, round_eq, Int.floor_eq_iff]
    push_cast
    constructor <;> linarith
  · rw [round_eq, Int.floor_eq_iff]
    constructor <;> linarith

namespace Platform

/-- The platform at hand. -/
def native : Platform :=
  ⟨Float.floor, Float.ceil, Float.round, Float.tan, Float.atan, Float.exp, Float.log, Float.exp2, Float.log2⟩

/-- The numbers of a platform: doubles. -/
def Number (_ : Platform) : Type := Float

instance (p : Platform) : Scalar p.Number :=
  { (inferInstance : Scalar Float) with
    floor := p.floor
    ceil := p.ceil
    round := p.round
    tan := p.tan
    atan := p.atan
    exp := p.exp
    log := p.log
    exp2 := p.exp2
    log2 := p.log2 }

/-- The planar operations on doubles, which are those of the platform at hand. -/
def planarOps (p : Platform) : PlanarOps p.Number := PlanarOps.standard

instance (p : Platform) : NumericOrder p.Number where
  beq_comm := NumericOrder.beq_comm (α := Float)
  number_of_beq := NumericOrder.number_of_beq (α := Float)
  lt_asymm := NumericOrder.lt_asymm (α := Float)
  not_beq_of_lt := NumericOrder.not_beq_of_lt (α := Float)
  lt_or_beq_or_lt := NumericOrder.lt_or_beq_or_lt (α := Float)
  min_eq := NumericOrder.min_eq (α := Float)
  max_eq := NumericOrder.max_eq (α := Float)
  sortsBefore_total := NumericOrder.sortsBefore_total (α := Float)
  sortsBefore_trans := NumericOrder.sortsBefore_trans (α := Float)
  sortsBefore_antisymm := NumericOrder.sortsBefore_antisymm (α := Float)

/-- What is known of the powers of two of a platform: they are numbers but for something that is none, and those of the
zoom levels are positive, finite and in order. -/
structure PowersOfTwo (p : Platform) : Prop where
  isNaN_exp2 (z : Float) : (p.exp2 z).isNaN = z.isNaN
  pos {n : Nat} (level : n ≤ 255) : 0.0 < p.exp2 (Scalar.ofNat n)
  finite {n : Nat} (level : n ≤ 255) : (p.exp2 (Scalar.ofNat n)).isFinite
  mono {m n : Nat} (h : m ≤ n) (level : n ≤ 255) : p.exp2 (Scalar.ofNat m) ≤ p.exp2 (Scalar.ofNat n)

/-- What is known of rounding on a platform: a finite double goes to the nearest whole number, the one further from zero
where two are as near, and others stay. -/
structure RoundsToWhole (p : Platform) : Prop where
  finite {x : Float} (h : x.isFinite) : Double.IsRounded (p.round x) (nearest (Double.value x))
  infinite {x : Float} {s : Float.Model.UnpackedFloat.Sign} (h : x.toModel.unpack = .infinity s) : p.round x = x
  isNaN {x : Float} (h : x.isNaN) : (p.round x).isNaN

namespace RoundsToWhole

/-- Rounding keeps the order. -/
theorem isMonotone_round {p : Platform} (hp : p.RoundsToWhole) : Double.IsMonotone p.round where
  mono h := by
    refine Double.rounded_mono p.round (f := fun q => nearest q) (fun q r hqr => ?_) (fun _ => hp.finite)
      (fun x s hx => ?_) h
    · have hle : nearest (q : ℝ) ≤ nearest (r : ℝ) := nearest_mono (by exact_mod_cast hqr)
      exact Int.cast_le.mpr hle
    · have hnumber : x.isNaN = false := Bool.eq_false_iff.mpr fun hn => by
        rw [Double.isNaN_iff.mp hn] at hx
        cases hx
      rw [hp.infinite hx]
      exact ⟨hnumber, Double.steps_of_infinite hx⟩
  isNaN := hp.isNaN

/-- A double is rounded to a whole number less than half a unit away. -/
theorem round_eq {p : Platform} (hp : p.RoundsToWhole) {x y : Float} {n : ℤ} (hx : x.isFinite) (hy : y.isFinite)
    (whole : Double.value y = n) (some : Double.value y ≠ 0) (near : |Double.value x - n| < 1 / 2) : p.round x = y := by
  have hround := hp.finite hx
  have hself := Double.isRounded_value hy
  have hnear : |(Double.value x : ℝ) - n| < 2⁻¹ := by
    have := (Rat.cast_lt (K := ℝ)).mpr near
    push_cast at this
    rwa [← one_div]
  rw [nearest_of_abs_sub_lt hnear, ← whole] at hround
  exact Double.eq_of_le_of_le (hround.mono hself le_rfl) (hself.mono hround le_rfl) some

end RoundsToWhole

end Platform

namespace Double

open Float.Model UnpackedFloat

/-- The nearest whole number, the one further from zero where two are as near. From a place on mantissas are whole. -/
def nearestWhole (x : Float) : Float :=
  match x.toModel.unpack with
  | .finite s m e _ =>
    if 0 ≤ e then x
    else .ofModel (Float.Model.pack
      (UnpackedFloat.normalize .binary64 (s.apply ((2 * m + 2 ^ (-e).toNat) / 2 ^ ((-e).toNat + 1) : ℕ)) 0 s))
  | _ => x

/-- Half a unit is added to a positive fraction, and what is left of it dropped. -/
theorem nearest_fraction (m k : ℕ) : nearest ((m / 2 ^ k : ℚ) : ℝ) = ((2 * m + 2 ^ k) / 2 ^ (k + 1) : ℕ) := by
  have hnonneg : ¬(((m / 2 ^ k : ℚ) : ℝ) < 0) := not_lt.mpr (by positivity)
  have hhalf : ((m / 2 ^ k : ℚ) : ℝ) + 1 / 2 = ((2 * m + 2 ^ k : ℕ) : ℝ) / ((2 ^ (k + 1) : ℕ) : ℝ) := by
    push_cast
    field_simp
    ring
  rw [nearest, if_neg hnonneg, round_eq, hhalf]
  exact Int.floor_div_natCast _ _ |>.trans (congrArg (· / _) (Int.floor_natCast _))

/-- Such is the whole number that is computed. -/
theorem isRounded_nearestWhole {x : Float} (hx : x.isFinite) : IsRounded (nearestWhole x) (nearest (value x)) := by
  obtain ⟨s, hunpack⟩ | ⟨s, m, e, _, hunpack⟩ := zero_or_mantissa hx
  · have hsame : nearestWhole x = x := by rw [nearestWhole, hunpack]
    have hzero : value x = 0 := value_of_zero hunpack
    have hnearest : nearest ((value x : ℚ) : ℝ) = 0 := by
      rw [hzero, Rat.cast_zero]
      exact_mod_cast nearest_intCast 0
    rw [hsame, hnearest, Int.cast_zero, ← hzero]
    exact isRounded_value hx
  · by_cases he : 0 ≤ e
    · obtain ⟨n, rfl⟩ := Int.eq_ofNat_of_zero_le he
      have hsame : nearestWhole x = x := by
        rw [nearestWhole, hunpack]
        exact if_pos he
      have hwhole : value x = (s.apply 1 * (m * 2 ^ n) : ℤ) := by
        rw [value_of_unpack hunpack]
        push_cast
        rw [zpow_natCast]
      have hnearest : nearest ((value x : ℚ) : ℝ) = s.apply 1 * (m * 2 ^ n) := by
        rw [hwhole, Rat.cast_intCast, nearest_intCast]
      rw [hsame, hnearest, ← hwhole]
      exact isRounded_value hx
    · obtain ⟨k, hk⟩ : ∃ k, (-e).toNat = k := ⟨_, rfl⟩
      have hplace : e = -k := by omega
      have hcomputed : nearestWhole x = .ofModel (Float.Model.pack
          (UnpackedFloat.normalize .binary64 (s.apply ((2 * m + 2 ^ k) / 2 ^ (k + 1) : ℕ)) 0 s)) := by
        rw [nearestWhole, hunpack, ← hk]
        exact if_neg he
      have hvalue : value x = s.apply 1 * (m / 2 ^ k) := by
        rw [value_of_unpack hunpack, hplace, zpow_neg, zpow_natCast, div_eq_mul_inv]
      have hnearest : nearest ((value x : ℚ) : ℝ) = s.apply ((2 * m + 2 ^ k) / 2 ^ (k + 1) : ℕ) := by
        have hfraction := nearest_fraction m k
        rw [hvalue]
        cases s with
        | positive => rw [apply_positive, apply_positive, Int.cast_one, one_mul, hfraction]
        | negative =>
          rw [apply_negative, apply_negative, Int.cast_neg, Int.cast_one, neg_one_mul, Rat.cast_neg, nearest_neg,
            hfraction]
      rw [hcomputed, hnearest]
      simpa using isRounded_normalize (s.apply ((2 * m + 2 ^ k) / 2 ^ (k + 1) : ℕ)) 0 s

end Double

namespace Platform

/-- A platform that computes the nearest whole number rounds as it should. -/
theorem roundsToWhole_of_nearestWhole {p : Platform} (computed : p.round = Double.nearestWhole) : p.RoundsToWhole where
  finite h := by
    rw [computed]
    exact Double.isRounded_nearestWhole h
  infinite h := by
    rw [computed, Double.nearestWhole, h]
  isNaN h := by
    rwa [computed, Double.nearestWhole, Double.isNaN_iff.mp h]

/-- The platform at hand, with a rounding to whole numbers that is computed. -/
def computed : Platform := { native with round := Double.nearestWhole }

/-- It rounds as it should. -/
theorem roundsToWhole_computed : computed.RoundsToWhole := roundsToWhole_of_nearestWhole rfl

end Platform

end AreaOfInterest
