import AreaOfInterest.Proofs.ExactExtents
import AreaOfInterest.Proofs.NumericOrder

/-!
# Rounding to five places

On the real line a value is rounded to the nearest whole number of hundred-thousandths. The values that rounding keeps
are these, so that rounding once is enough. And as rounding keeps the order, what lies between two whole numbers still
does afterwards.
-/

namespace AreaOfInterest

open Exact

/-- The nearest whole number, the one further from zero where two are as near. -/
noncomputable def nearest (x : ℝ) : ℤ := if x < 0 then -round (-x) else round x

/-- A whole number is its own nearest one. -/
theorem nearest_intCast (n : ℤ) : nearest n = n := by
  unfold nearest
  split
  · rw [← Int.cast_neg, round_intCast, neg_neg]
  · exact round_intCast n

/-- The nearest whole number to an opposite is the opposite. -/
theorem nearest_neg (x : ℝ) : nearest (-x) = -nearest x := by
  unfold nearest
  obtain hneg | rfl | hpos := lt_trichotomy x 0
  · rw [if_neg (by linarith), if_pos hneg, neg_neg]
  · simp
  · rw [if_pos (by linarith), if_neg (by linarith), neg_neg]

/-- Going to the nearest whole number keeps the order. -/
theorem nearest_mono : Monotone nearest := by
  have hround {x y : ℝ} (h : x ≤ y) : round x ≤ round y := by
    rw [round_eq, round_eq]
    exact Int.floor_le_floor (by linarith)
  have hpositive {x : ℝ} (h : 0 ≤ x) : 0 ≤ round x := by simpa using hround h
  intro x y hxy
  unfold nearest
  split
  · next hx =>
    split
    · exact neg_le_neg (hround (neg_le_neg hxy))
    · next hy =>
      have hnonpos : -round (-x) ≤ 0 := neg_nonpos.mpr (hpositive (by linarith))
      exact hnonpos.trans (hpositive (not_lt.mp hy))
  · next hx =>
    rw [if_neg (not_lt.mpr ((not_lt.mp hx).trans hxy))]
    exact hround hxy

/-- What is a whole one further on is at least one further on when it is rounded. -/
theorem nearest_add_one_le {x y : ℝ} (h : x + 1 ≤ y) : nearest x + 1 ≤ nearest y := by
  refine le_trans ?_ (nearest_mono h)
  unfold nearest
  split
  · next hneg =>
    split
    · have hsub : -(x + 1) = -x - 1 := by ring
      rw [hsub, round_sub_one]
      omega
    · -- Across zero two halves are rounded away from each other.
      have hsum : 0 ≤ round x + round (-x) := by
        have hfloor := Int.le_floor_add_floor (x + 1 / 2) (-x + 1 / 2)
        have hone : x + 1 / 2 + (-x + 1 / 2) = 1 := by ring
        rw [hone, Int.floor_one] at hfloor
        rw [round_eq, round_eq]
        omega
      rw [round_add_one]
      omega
  · next hpos =>
    have hpos' : ¬ x + 1 < 0 := by linarith [not_lt.mp hpos]
    rw [if_neg hpos', round_add_one]

variable {α : Type} [Scalar α] [Exact α]

/-- Exact scalars whose rounding to whole numbers is that of real numbers. -/
class ExactRounding (α : Type) [Scalar α] [Exact α] : Prop where
  real_round (x : α) : real (Scalar.round x) = nearest (real x)

noncomputable instance : ExactRounding ℝ where
  real_round x := by
    have h : Scalar.round x = ((if x < 0 then -⌊-x + 1 / 2⌋ else ⌊x + 1 / 2⌋ : ℤ) : ℝ) := by
      simp only [Scalar.round, Int.cast_ite, Int.cast_neg]
    rw [h, nearest, round_eq, round_eq]
    rfl

instance : ExactRounding Rat where
  real_round x := by
    have hfloor (y : Rat) : y.floor = ⌊y⌋ := eq_of_forall_le_iff fun n => Rat.le_floor_iff.trans Int.le_floor.symm
    have h : Scalar.round x = ((if x < 0 then -round (-x) else round x : ℤ) : Rat) := by
      simp only [Scalar.round, hfloor, round_eq, Int.cast_ite, Int.cast_neg]
    have hreal (y : Rat) : real y = (y : ℝ) := rfl
    rw [h, hreal, hreal, Rat.cast_intCast, nearest, ← Rat.cast_neg, Rat.round_cast, Rat.round_cast]
    simp only [Rat.cast_lt_zero]

noncomputable instance : NumericOrder ℝ where
  beq_comm x y := by simp [BEq.beq, eq_comm]
  number_of_beq _ := (beq_iff _ _).mpr rfl
  lt_asymm := lt_asymm
  not_beq_of_lt h := by
    rw [beq_iff]
    exact ne_of_lt h
  lt_or_beq_or_lt {x y} _ _ := by
    rw [beq_iff]
    exact lt_trichotomy x y
  min_eq {x y} _ _ := by
    split
    · next h => exact min_eq_right h.le
    · next h => exact min_eq_left (not_lt.mp h)
  max_eq {x y} _ _ := by
    split
    · next h => exact max_eq_right h.le
    · next h => exact max_eq_left (not_lt.mp h)
  sortsBefore_total x y := by simpa [Scalar.sortsBefore] using le_total x y
  sortsBefore_trans h h' := by simp [Scalar.sortsBefore] at *; exact h.trans h'
  sortsBefore_antisymm h h' := by simp [Scalar.sortsBefore] at *; exact le_antisymm h h'

namespace Mercator

variable [ExactRounding α]

/-- Rounding gives a whole number of hundred-thousandths. -/
theorem real_truncate (x : α) : real (truncate x) * 100000 = nearest (real x * 100000) := by
  have h : (OfScientific.ofScientific 1000000 true 1 : ℝ) = 100000 := by norm_num
  rw [truncate, real_div, ExactRounding.real_round, real_mul, real_ofScientific, h]
  exact div_mul_cancel₀ _ (by norm_num)

/-- What rounding keeps are the whole numbers of hundred-thousandths. -/
theorem truncate_eq_self_iff {x : α} : truncate x = x ↔ ∃ n : ℤ, real x * 100000 = n := by
  have hrounded := real_truncate x
  constructor
  · intro h
    exact ⟨nearest (real x * 100000), by rwa [h] at hrounded⟩
  · rintro ⟨n, hn⟩
    rw [hn, nearest_intCast, ← hn] at hrounded
    exact real_injective (mul_right_cancel₀ (by norm_num) hrounded)

/-- Rounding once is enough. -/
theorem truncate_truncate (x : α) : truncate (truncate x) = truncate x :=
  truncate_eq_self_iff.mpr ⟨_, real_truncate x⟩

/-- Rounding keeps the order. -/
theorem real_truncate_mono {x y : α} (h : real x ≤ real y) : real (truncate x) ≤ real (truncate y) := by
  have hle : nearest (real x * 100000) ≤ nearest (real y * 100000) := nearest_mono (by linarith)
  have hle' : (nearest (real x * 100000) : ℝ) ≤ nearest (real y * 100000) := by exact_mod_cast hle
  rw [← real_truncate, ← real_truncate] at hle'
  linarith

/-- What lies between two whole numbers still does when it is rounded. -/
theorem real_truncate_mem {x : α} {m n : ℤ} (h : real x ∈ Set.Icc (m : ℝ) n) :
    real (truncate x) ∈ Set.Icc (m : ℝ) n := by
  have hlower : m * 100000 ≤ nearest (real x * 100000) := by
    rw [← nearest_intCast (m * 100000)]
    exact nearest_mono (by push_cast; linarith [h.1])
  have hupper : nearest (real x * 100000) ≤ n * 100000 := by
    rw [← nearest_intCast (n * 100000)]
    exact nearest_mono (by push_cast; linarith [h.2])
  have hlower' : (m : ℝ) * 100000 ≤ nearest (real x * 100000) := by exact_mod_cast hlower
  have hupper' : (nearest (real x * 100000) : ℝ) ≤ n * 100000 := by exact_mod_cast hupper
  have hrounded := real_truncate x
  constructor <;> linarith

end Mercator

end AreaOfInterest
