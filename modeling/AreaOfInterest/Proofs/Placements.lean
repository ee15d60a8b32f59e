import AreaOfInterest.Proofs.NumericOrder
import Mathlib.Data.Rat.Cast.Order
import Mathlib.Data.Real.Basic

/-!
# Scalars on the real line

Where scalars are placed on the real line, with numbers in their order and equal ones in the same place. The order used
for sorting goes along with some placement of the doubles: each is placed at the number of steps from zero to it, from
one double to the next. Both zeros are there at zero, and so equal doubles are the same, or the two zeros.
-/

namespace AreaOfInterest

/-- A placement of scalars on the real line by which numbers are compared. -/
structure Placement (α : Type) [Scalar α] where
  place : α → ℝ
  place_lt {x y : α} : x < y → place x < place y
  place_eq {x y : α} : x == y → place x = place y

/-- What is sorted is in order on the real line, equal numbers aside. -/
class SortedInPlace (α : Type) [Scalar α] : Prop extends NumericOrder α where
  exists_placement : ∃ p : Placement α, ∀ x y, Scalar.sortsBefore x y → p.place x ≤ p.place y

namespace Placement

variable {α : Type} [Scalar α] [NumericOrder α] (p : Placement α) {x y : α}

/-- Numbers are compared by their places. -/
theorem lt_iff (hx : x == x) (hy : y == y) : x < y ↔ p.place x < p.place y := by
  refine ⟨p.place_lt, fun h => ?_⟩
  obtain hlt | heq | hgt := NumericOrder.lt_or_beq_or_lt hx hy
  · exact hlt
  · exact absurd (p.place_eq heq) h.ne
  · exact absurd (p.place_lt hgt) h.asymm

/-- Numbers are equal when they are in the same place. -/
theorem beq_iff (hx : x == x) (hy : y == y) : x == y ↔ p.place x = p.place y := by
  refine ⟨p.place_eq, fun h => ?_⟩
  obtain hlt | heq | hgt := NumericOrder.lt_or_beq_or_lt hx hy
  · exact absurd h (p.place_lt hlt).ne
  · exact heq
  · exact absurd h (p.place_lt hgt).ne'

end Placement

instance : SortedInPlace Rat where
  exists_placement :=
    ⟨⟨(↑), fun h => Rat.cast_lt.mpr h, fun h => congrArg _ (eq_of_beq h)⟩, fun x y h => by
      simpa [Scalar.sortsBefore] using h⟩

namespace Double

open Float.Model

/-- The sign bit of a double. -/
def sign (x : Float) : UnpackedFloat.Sign := if x.toBits.toNat < 2 ^ 63 then .positive else .negative

/-- The number of doubles from zero to a double: its bits but for the sign. -/
def magnitude (x : Float) : Nat := x.toBits.toNat % 2 ^ 63

/-- The number of steps from zero up to a double, or down to it. -/
def steps (x : Float) : Int := (sign x).apply (magnitude x)

/-- What a double with a sign and a magnitude is unpacked to. Subnormal doubles have the least exponent. -/
inductive Unpacks (s : UnpackedFloat.Sign) (n : Nat) : UnpackedFloat → Prop where
  | notANumber : Unpacks s n .notANumber
  | infinity (last : n = 2047 * 2 ^ 52) : Unpacks s n (.infinity s)
  | zero (first : n = 0) : Unpacks s n (.zero s)
  | finite {m : Nat} {e : Int} {pos : 0 < m} (width : m < 2 ^ 53) (least : -1074 ≤ e) (greatest : e ≤ 971)
      (normal : e = -1074 ∨ 2 ^ 52 ≤ m) (magnitude : (n : Int) = (e + 1074) * 2 ^ 52 + m) :
      Unpacks s n (.finite s m e pos)

/-- The fields of the bits of a double, as numbers. -/
theorem fields_toNat (bits : UInt64) :
    (@UnpackedFloat.unpackMantissa .binary64 bits.toBitVec).toNat = bits.toNat % 2 ^ 52 ∧
      (@UnpackedFloat.unpackExponent .binary64 bits.toBitVec).toNat = bits.toNat % 2 ^ 63 / 2 ^ 52 ∧
      (@UnpackedFloat.unpackSign .binary64 bits.toBitVec).toNat = bits.toNat / 2 ^ 63 := by
  have hlt := bits.toNat_lt
  refine ⟨?_, ?_, ?_⟩
  · change (bits.toNat >>> 0) % 2 ^ 52 = _
    rw [Nat.shiftRight_zero]
  · change (bits.toNat >>> 52) % 2 ^ 11 = _
    rw [Nat.shiftRight_eq_div_pow]
    omega
  · change (bits.toNat >>> 63) % 2 ^ 1 = _
    rw [Nat.shiftRight_eq_div_pow]
    omega

/-- A mantissa with its implicit bit. -/
theorem toNat_one_append (mantissa : BitVec 52) : (1#1 ++ mantissa).toNat = 2 ^ 52 + mantissa.toNat := by
  rw [BitVec.toNat_append, ← Nat.shiftLeft_add_eq_or_of_lt mantissa.isLt]
  simp [Nat.shiftLeft_eq]

/-- Every double is unpacked by its sign and magnitude. -/
theorem unpacks (x : Float) : Unpacks (sign x) (magnitude x) x.toModel.unpack := by
  have hunpack : x.toModel.unpack = UnpackedFloat.unpack Format.binary64 x.toBits.toBitVec := rfl
  rw [hunpack, sign, magnitude]
  generalize x.toBits = bits
  obtain ⟨hmantissa, hexponent, hsign⟩ := fields_toNat bits
  have hlt := bits.toNat_lt
  have hbias : ((Format.binary64.exponentBias : Nat) : Int) = 1023 := rfl
  have hlast : @UnpackedFloat.unpackExponent .binary64 bits.toBitVec = -1#11 ↔
      bits.toNat % 2 ^ 63 / 2 ^ 52 = 2047 := by
    rw [← BitVec.toNat_inj, hexponent]
    rfl
  have hfirst : @UnpackedFloat.unpackExponent .binary64 bits.toBitVec = 0#11 ↔
      bits.toNat % 2 ^ 63 / 2 ^ 52 = 0 := by
    rw [← BitVec.toNat_inj, hexponent]
    rfl
  have hnone : @UnpackedFloat.unpackMantissa .binary64 bits.toBitVec = 0#52 ↔ bits.toNat % 2 ^ 52 = 0 := by
    rw [← BitVec.toNat_inj, hmantissa]
    rfl
  have hs : (if bits.toNat < 2 ^ 63 then .positive else .negative) =
      UnpackedFloat.Sign.ofBitVec (@UnpackedFloat.unpackSign .binary64 bits.toBitVec) := by
    have hpositive : bits.toNat < 2 ^ 63 ↔ bits.toNat / 2 ^ 63 = 0 := by omega
    simp only [UnpackedFloat.Sign.ofBitVec, BitVec.toNat_eq, hsign]
    exact if_congr hpositive rfl rfl
  rw [hs]
  delta UnpackedFloat.unpack
  dsimp only
  by_cases hall : bits.toNat % 2 ^ 63 / 2 ^ 52 = 2047
  · rw [if_pos (hlast.mpr hall)]
    by_cases hempty : bits.toNat % 2 ^ 52 = 0
    · rw [if_pos (hnone.mpr hempty)]
      exact .infinity (by omega)
    · rw [if_neg (mt hnone.mp hempty)]
      exact .notANumber
  · rw [if_neg (mt hlast.mp hall)]
    by_cases hleast : bits.toNat % 2 ^ 63 / 2 ^ 52 = 0
    · rw [if_pos (hfirst.mpr hleast)]
      by_cases hempty : bits.toNat % 2 ^ 52 = 0
      · rw [dif_pos (hnone.mpr hempty)]
        exact .zero (by omega)
      · rw [dif_neg (mt hnone.mp hempty)]
        exact .finite (by omega) (by omega) (by omega) (.inl (by omega)) (by omega)
    · rw [if_neg (mt hfirst.mp hleast)]
      have happend := toNat_one_append (@UnpackedFloat.unpackMantissa .binary64 bits.toBitVec)
      rw [hmantissa] at happend
      exact .finite (by omega) (by omega) (by omega) (.inr (by omega)) (by omega)

/-- Exponents and then mantissas are compared like the magnitudes that they make up. -/
theorem compare_magnitudes {m m' n n' : Nat} {e e' : Int} (width : m < 2 ^ 53) (width' : m' < 2 ^ 53)
    (least : -1074 ≤ e) (least' : -1074 ≤ e') (normal : e = -1074 ∨ 2 ^ 52 ≤ m) (normal' : e' = -1074 ∨ 2 ^ 52 ≤ m')
    (magnitude : (n : Int) = (e + 1074) * 2 ^ 52 + m) (magnitude' : (n' : Int) = (e' + 1074) * 2 ^ 52 + m') :
    (compare e e').then (compare m m') = compare (n : Int) n' := by
  obtain hlt | rfl | hgt := lt_trichotomy e e'
  · rw [Int.compare_eq_lt.mpr hlt, Int.compare_eq_lt.mpr (by omega)]
    rfl
  · have hmantissas : compare m m' = compare (n : Int) n' := by
      rw [magnitude, magnitude', Nat.compare_eq_ite_lt, Int.compare_eq_ite_lt]
      refine if_congr (by omega) rfl (if_congr (by omega) rfl rfl)
    rw [compare_eq_iff_eq.mpr rfl, hmantissas]
    rfl
  · rw [Int.compare_eq_gt.mpr hgt, Int.compare_eq_gt.mpr (by omega)]
    rfl

/-- With the positive sign a number is itself. -/
theorem apply_positive (n : Int) : UnpackedFloat.Sign.positive.apply n = n := rfl

/-- With the negative sign it is its opposite. -/
theorem apply_negative (n : Int) : UnpackedFloat.Sign.negative.apply n = -n := rfl

/-- With either sign a number is itself or its opposite. -/
theorem apply_cases (s : UnpackedFloat.Sign) (n : Int) : s.apply n = n ∨ s.apply n = -n := by
  cases s with
  | positive => exact .inl rfl
  | negative => exact .inr rfl

/-- Of two numbers the outcome of comparing them is that of comparing their steps. -/
theorem compare_of_unpacks {s t : UnpackedFloat.Sign} {m n : Nat} {u v : UnpackedFloat} (hu : Unpacks s m u)
    (hv : Unpacks t n v) (hun : u ≠ .notANumber) (hvn : v ≠ .notANumber) :
    u.compare v = some (compare (s.apply m) (t.apply n)) := by
  have hlt {a b : Int} (h : a < b) : some .lt = some (compare a b) := by rw [Int.compare_eq_lt.mpr h]
  have hgt {a b : Int} (h : b < a) : some .gt = some (compare a b) := by rw [Int.compare_eq_gt.mpr h]
  have hs := apply_cases s m
  have ht := apply_cases t n
  cases hu with
  | notANumber => exact absurd rfl hun
  | infinity last =>
    cases hv with
    | notANumber => exact absurd rfl hvn
    | infinity last' =>
      subst last last'
      cases s <;> cases t <;> rfl
    | zero | finite =>
      cases s with
      | positive => exact hgt (by rw [apply_positive]; omega)
      | negative => exact hlt (by rw [apply_negative]; omega)
  | zero first =>
    cases hv with
    | notANumber => exact absurd rfl hvn
    | zero first' =>
      subst first first'
      cases s <;> cases t <;> rfl
    | infinity | finite =>
      cases t with
      | positive => exact hlt (by rw [apply_positive]; omega)
      | negative => exact hgt (by rw [apply_negative]; omega)
  | finite width least greatest normal magnitude =>
    cases hv with
    | notANumber => exact absurd rfl hvn
    | infinity =>
      cases t with
      | positive => exact hlt (by rw [apply_positive]; omega)
      | negative => exact hgt (by rw [apply_negative]; omega)
    | zero =>
      cases s with
      | positive => exact hgt (by rw [apply_positive]; omega)
      | negative => exact hlt (by rw [apply_negative]; omega)
    | finite width' least' _ normal' magnitude' =>
      have hsame := compare_magnitudes width width' least least' normal normal' magnitude magnitude'
      cases s with
      | positive =>
        cases t with
        | positive => exact congrArg some hsame
        | negative => exact hgt (by rw [apply_positive, apply_negative]; omega)
      | negative =>
        cases t with
        | positive => exact hlt (by rw [apply_positive, apply_negative]; omega)
        | negative =>
          have hswap : compare (-(m : Int)) (-(n : Int)) = (compare (m : Int) n).swap := by
            rw [Int.compare_swap, Int.compare_eq_ite_lt, Int.compare_eq_ite_lt]
            exact if_congr (by omega) rfl (if_congr (by omega) rfl rfl)
          exact congrArg some ((congrArg Ordering.swap hsame).trans hswap.symm)

/-- Numbers are compared by their steps. -/
theorem order?_of_numbers {x y : Float} (hx : x == x) (hy : y == y) :
    order? x y = some (compare (steps x) (steps y)) := by
  have hnumber {z : Float} (hz : z == z) : z.toModel.unpack ≠ .notANumber := by
    intro hnone
    rw [beq_iff, order?, hnone] at hz
    cases hz
  exact compare_of_unpacks (unpacks x) (unpacks y) (hnumber hx) (hnumber hy)

/-- What is compared by size are numbers. -/
theorem numbers_of_lt {x y : Float} (h : x < y) : x == x ∧ y == y := by
  rw [lt_iff] at h
  have hswap : order? y x = some .gt := by rw [order?_swap, h]; rfl
  exact ⟨beq_iff.mpr (compare_self (Option.isSome_of_eq_some h)),
    beq_iff.mpr (compare_self (Option.isSome_of_eq_some hswap))⟩

/-- A double that is below another one is at fewer steps. -/
theorem steps_lt {x y : Float} (h : x < y) : steps x < steps y := by
  obtain ⟨hx, hy⟩ := numbers_of_lt h
  rw [lt_iff, order?_of_numbers hx hy] at h
  exact Int.compare_eq_lt.mp (Option.some.inj h)

/-- Equal doubles are at as many steps. -/
theorem steps_eq {x y : Float} (h : x == y) : steps x = steps y := by
  have hy : y == y := NumericOrder.number_of_beq_right h
  have hx : x == x := NumericOrder.number_of_beq h
  rw [beq_iff, order?_of_numbers hx hy] at h
  exact compare_eq_iff_eq.mp (Option.some.inj h)

/-- The steps of a double are its bits, up from zero or down from the negative zero. -/
theorem steps_cases (x : Float) :
    x.toBits.toNat < 2 ^ 63 ∧ steps x = x.toBits.toNat ∨
      2 ^ 63 ≤ x.toBits.toNat ∧ steps x = 2 ^ 63 - (x.toBits.toNat : Int) := by
  have hx := x.toBits.toNat_lt
  by_cases hpositive : x.toBits.toNat < 2 ^ 63
  · refine .inl ⟨hpositive, ?_⟩
    rw [steps, sign, if_pos hpositive, apply_positive, magnitude]
    omega
  · refine .inr ⟨Nat.le_of_not_lt hpositive, ?_⟩
    rw [steps, sign, if_neg hpositive, apply_negative, magnitude]
    omega

/-- What is sorted is in the order of the steps: for negative doubles these are one more than the rank. -/
theorem steps_le_of_rank {x y : Float} (h : rank x ≤ rank y) : steps x ≤ steps y := by
  have hx := steps_cases x
  have hy := steps_cases y
  simp only [rank, Nat.pow_eq] at h
  split at h <;> split at h <;> omega

/-- Equal doubles are the same, or the two zeros. -/
theorem eq_or_zeros_of_beq {x y : Float} (h : x == y) : x = y ∨ x = 0.0 ∧ y = -0.0 ∨ x = -0.0 ∧ y = 0.0 := by
  have hbits {z w : Float} (hzw : z.toBits.toNat = w.toBits.toNat) : z = w :=
    rank_inj (by rw [rank, rank, hzw])
  have hpositive : (0.0 : Float).toBits.toNat = 0 := by decide +kernel
  have hnegative : (-0.0 : Float).toBits.toNat = 2 ^ 63 := by decide +kernel
  have hsteps := steps_eq h
  obtain ⟨hxlt, hx⟩ | ⟨hxle, hx⟩ := steps_cases x <;> obtain ⟨hylt, hy⟩ | ⟨hyle, hy⟩ := steps_cases y
  · exact .inl (hbits (by omega))
  · exact .inr (.inl ⟨hbits (by omega), hbits (by omega)⟩)
  · exact .inr (.inr ⟨hbits (by omega), hbits (by omega)⟩)
  · exact .inl (hbits (by omega))

end Double

instance : SortedInPlace Float where
  exists_placement :=
    ⟨⟨fun x => Double.steps x, fun h => Int.cast_lt.mpr (Double.steps_lt h), fun h => congrArg _ (Double.steps_eq h)⟩,
      fun _ _ h => Int.cast_le.mpr (Double.steps_le_of_rank (of_decide_eq_true h))⟩

end AreaOfInterest
