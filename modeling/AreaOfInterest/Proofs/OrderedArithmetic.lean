import AreaOfInterest.Proofs.NotNumbers
import AreaOfInterest.Proofs.RoundingToDoubles
import Mathlib.Tactic.Ring

/-!
# Arithmetic and order

Differences, products and quotients of finite doubles are rounded from the exact ones. As rounding keeps the order, so
do subtracting a positive double, multiplying with it and dividing by it, with infinities staying where they are.
Dividing by a larger double gives no larger quotient.
-/

namespace AreaOfInterest.Double

open Float.Model UnpackedFloat

/-- The rational number that a finite double is. -/
def value (x : Float) : ℚ :=
  match x.toModel.unpack with
  | .finite s m e _ => s.apply m * 2 ^ e
  | _ => 0

/-- A double that an exact result is rounded to. -/
structure IsRounded (x : Float) (q : ℚ) : Prop where
  number : x.isNaN = false
  size : RoundsTo |q| (magnitude x)
  negative : q < 0 → sign x = .negative
  positive : 0 < q → sign x = .positive

/-- Numbers are in the order of their steps. -/
theorem le_iff_steps {x y : Float} (hx : x.isNaN = false) (hy : y.isNaN = false) : x ≤ y ↔ steps x ≤ steps y := by
  rw [le_iff, lt_iff, beq_iff, order?_of_numbers (beq_self_iff.mpr hx) (beq_self_iff.mpr hy), Option.some.injEq,
    Option.some.injEq, Int.compare_eq_lt, compare_eq_iff_eq]
  exact le_iff_lt_or_eq.symm

/-- So they are strictly. -/
theorem lt_iff_steps {x y : Float} (hx : x.isNaN = false) (hy : y.isNaN = false) : x < y ↔ steps x < steps y := by
  rw [lt_iff, order?_of_numbers (beq_self_iff.mpr hx) (beq_self_iff.mpr hy), Option.some.injEq, Int.compare_eq_lt]

/-- A number is at most itself. -/
theorem le_self {x : Float} (h : x.isNaN = false) : x ≤ x := (le_iff_steps h h).mpr le_rfl

/-- What is at most something is a number, and so is that. -/
theorem numbers_of_le {x y : Float} (h : x ≤ y) : x.isNaN = false ∧ y.isNaN = false := by
  obtain hlt | heq := le_iff.mp h
  · exact ⟨beq_self_iff.mp (numbers_of_lt hlt).1, beq_self_iff.mp (numbers_of_lt hlt).2⟩
  · exact ⟨isNaN_of_beq heq, isNaN_of_beq (by rwa [NumericOrder.beq_comm])⟩

/-- What is below something is below all that is above that. -/
theorem trans_lt {x y z : Float} (h : x < y) (h' : y < z) : x < z := by
  obtain ⟨hx, hy⟩ := numbers_of_lt h
  obtain ⟨-, hz⟩ := numbers_of_lt h'
  rw [beq_self_iff] at hx hy hz
  rw [lt_iff_steps hx hy] at h
  rw [lt_iff_steps hy hz] at h'
  exact (lt_iff_steps hx hz).mpr (h.trans h')

/-- What is at most something is at most all that it is at most. -/
theorem trans_le {x y z : Float} (h : x ≤ y) (h' : y ≤ z) : x ≤ z := by
  obtain ⟨hx, hy⟩ := numbers_of_le h
  obtain ⟨-, hz⟩ := numbers_of_le h'
  rw [le_iff_steps hx hy] at h
  rw [le_iff_steps hy hz] at h'
  exact (le_iff_steps hx hz).mpr (h.trans h')

/-- From zero on up. -/
theorem IsRounded.steps_nonneg {x : Float} {q : ℚ} (h : IsRounded x q) (hq : 0 ≤ q) : 0 ≤ steps x := by
  obtain hpos | rfl := hq.lt_or_eq
  · rw [steps, h.positive hpos, apply_positive]
    omega
  · have hnone : magnitude x = 0 := RoundsTo.eq_zero (by simpa using h.size)
    have := apply_cases (sign x) (magnitude x)
    rw [steps]
    omega

/-- From zero on down. -/
theorem IsRounded.steps_nonpos {x : Float} {q : ℚ} (h : IsRounded x q) (hq : q ≤ 0) : steps x ≤ 0 := by
  obtain hneg | rfl := hq.lt_or_eq
  · rw [steps, h.negative hneg, apply_negative]
    omega
  · have hnone : magnitude x = 0 := RoundsTo.eq_zero (by simpa using h.size)
    have := apply_cases (sign x) (magnitude x)
    rw [steps]
    omega

/-- Exact results are rounded in their order. -/
theorem IsRounded.mono {x y : Float} {q r : ℚ} (hx : IsRounded x q) (hy : IsRounded y r) (h : q ≤ r) : x ≤ y := by
  rw [le_iff_steps hx.number hy.number]
  obtain hr | hr := lt_or_ge r 0
  · have hq := h.trans_lt hr
    have hsize : magnitude y ≤ magnitude x :=
      hy.size.mono hx.size (by rw [abs_of_neg hr, abs_of_neg hq]; linarith)
    rw [steps, steps, hx.negative hq, hy.negative hr, apply_negative, apply_negative]
    omega
  · obtain hq | hq := lt_or_ge 0 q
    · have hsize : magnitude x ≤ magnitude y :=
        hx.size.mono hy.size (by rwa [abs_of_pos hq, abs_of_pos (hq.trans_le h)])
      rw [steps, steps, hx.positive hq, hy.positive (hq.trans_le h), apply_positive, apply_positive]
      omega
    · exact (hx.steps_nonpos hq).trans (hy.steps_nonneg hr)

section Values

variable {x y c : Float}

/-- A mantissa in its place is positive. -/
theorem scaled_pos {m : ℕ} (pos : 0 < m) (e : ℤ) : (0 : ℚ) < m * 2 ^ e :=
  mul_pos (by exact_mod_cast pos) (zpow_pos two_pos e)

/-- A double with a mantissa is that mantissa in its place, with its sign. -/
theorem value_of_unpack {s : Sign} {m : ℕ} {e : ℤ} {pos : 0 < m} (h : x.toModel.unpack = .finite s m e pos) :
    value x = s.apply 1 * (m * 2 ^ e) := by
  rw [value, h]
  cases s <;> simp [apply_positive, apply_negative]

/-- A positive value has a mantissa with the positive sign. -/
theorem unpack_of_value_pos (h : 0 < value c) : ∃ m e pos, c.toModel.unpack = .finite .positive m e pos := by
  obtain ⟨u, hunpack⟩ : ∃ u, c.toModel.unpack = u := ⟨_, rfl⟩
  cases u with
  | infinity | notANumber | zero =>
    rw [value, hunpack] at h
    exact absurd h (lt_irrefl 0)
  | finite s m e pos =>
    cases s with
    | positive => exact ⟨m, e, pos, hunpack⟩
    | negative =>
      have hm := scaled_pos pos e
      rw [value_of_unpack hunpack, apply_negative, Int.cast_neg, Int.cast_one] at h
      linarith

/-- A mantissa is unpacked from the sign and the magnitude. -/
theorem unpacks_finite {s : Sign} {m : ℕ} {e : ℤ} {pos : 0 < m} (h : x.toModel.unpack = .finite s m e pos) :
    sign x = s ∧ m < 2 ^ 53 ∧ -1074 ≤ e ∧ e ≤ 971 ∧ (e = -1074 ∨ 2 ^ 52 ≤ m) ∧
      (magnitude x : ℤ) = (e + 1074) * 2 ^ 52 + m := by
  have hshape := unpacks x
  rw [h] at hshape
  generalize sign x = t at hshape ⊢
  generalize magnitude x = n at hshape ⊢
  cases hshape with
  | finite width least greatest normal magnitude => exact ⟨rfl, width, least, greatest, normal, magnitude⟩

/-- A number is rounded from something with its sign. -/
theorem isRounded_of_sign {s : Sign} {v : ℚ} (number : x.isNaN = false) (pos : 0 < v) (hsign : sign x = s)
    (size : RoundsTo v (magnitude x)) : IsRounded x (s.apply 1 * v) := by
  cases s with
  | positive =>
    rw [apply_positive, Int.cast_one, one_mul]
    exact ⟨number, by rwa [abs_of_pos pos], fun h => absurd h pos.asymm, fun _ => hsign⟩
  | negative =>
    rw [apply_negative, Int.cast_neg, Int.cast_one, neg_one_mul]
    exact ⟨number, by rwa [abs_neg, abs_of_pos pos], fun _ => hsign, fun h => absurd h (by linarith)⟩

/-- A number without a magnitude is rounded from zero. -/
theorem isRounded_zero (number : x.isNaN = false) (none : magnitude x = 0) : IsRounded x 0 := by
  have hexact : StandsFor 0 .exact (0 / 2 ^ (-1074 : ℤ)) := by rw [zero_div, StandsFor, Nat.cast_zero]
  have hsize : RoundsTo 0 0 :=
    ⟨le_rfl, zpow_pos two_pos _, .inl rfl, hexact, by simp [Accuracy.roundToNearestEven]⟩
  exact ⟨number, by rwa [none, abs_zero], fun h => absurd h (lt_irrefl 0), fun h => absurd h (lt_irrefl 0)⟩

/-- What a number is packed to is one. -/
theorem isNaN_pack_of_ne {u : UnpackedFloat} (h : u ≠ .notANumber) :
    (Float.ofModel (Float.Model.pack u)).isNaN = false :=
  Bool.eq_false_iff.mpr (mt isNaN_pack.mp h)

/-- Zero is packed exactly. -/
theorem isRounded_pack_zero (s : Sign) : IsRounded (.ofModel (Float.Model.pack (.zero s))) 0 :=
  isRounded_zero (isNaN_pack_of_ne nofun) (sign_magnitude_pack_zero s).2

/-- What is rounded with a sign is rounded from something with that sign. -/
theorem isRounded_pack {s : Sign} {m : ℕ} {e : ℤ} {a : Accuracy} {v : ℚ} (pos : 0 < v)
    (h : sign (.ofModel (Float.Model.pack (roundWithAccuracy .binary64 s m e a))) = s ∧
      RoundsTo v (magnitude (.ofModel (Float.Model.pack (roundWithAccuracy .binary64 s m e a))))) :
    IsRounded (.ofModel (Float.Model.pack (roundWithAccuracy .binary64 s m e a))) (s.apply 1 * v) :=
  isRounded_of_sign (isNaN_pack_of_ne (roundWithAccuracy_ne _ _ _ _ _)) pos h.1 h.2

/-- Doubles are divided once they are unpacked. -/
theorem div_eq (x y : Float) :
    x / y = .ofModel (Float.Model.pack (UnpackedFloat.div .binary64 x.toModel.unpack y.toModel.unpack)) := rfl

/-- Doubles are multiplied once they are unpacked. -/
theorem mul_eq (x y : Float) :
    x * y = .ofModel (Float.Model.pack (UnpackedFloat.mul .binary64 x.toModel.unpack y.toModel.unpack)) := rfl

/-- A finite double is a zero, or has a mantissa. -/
theorem zero_or_mantissa (h : x.isFinite) :
    (∃ s, x.toModel.unpack = .zero s) ∨ ∃ s m e pos, x.toModel.unpack = .finite s m e pos := by
  have hfinite : x.toModel.unpack.isFinite := h
  generalize x.toModel.unpack = u at hfinite
  cases u with
  | notANumber | infinity => cases hfinite
  | zero s => exact .inl ⟨s, rfl⟩
  | finite s m e pos => exact .inr ⟨s, m, e, pos, rfl⟩

/-- A zero has no value. -/
theorem value_of_zero {s : Sign} (h : x.toModel.unpack = .zero s) : value x = 0 := by
  rw [value, h]

/-- A quotient by a positive double is rounded from the exact one. -/
theorem isRounded_div (hx : x.isFinite) (hc : 0 < value c) : IsRounded (x / c) (value x / value c) := by
  obtain ⟨m₂, e₂, pos₂, hunpack₂⟩ := unpack_of_value_pos hc
  obtain ⟨s, hunpack₁⟩ | ⟨s, m₁, e₁, pos₁, hunpack₁⟩ := zero_or_mantissa hx
  · rw [value_of_zero hunpack₁, zero_div, div_eq, hunpack₁, hunpack₂]
    cases s <;> exact isRounded_pack_zero _
  · obtain ⟨⟨m, e, a⟩, hcore⟩ : ∃ core, divCore .binary64 m₁ e₁ m₂ e₂ = core := ⟨_, rfl⟩
    have hround : UnpackedFloat.div .binary64 (.finite s m₁ e₁ pos₁) (.finite .positive m₂ e₂ pos₂) =
        roundWithAccuracy .binary64 s (divCore .binary64 m₁ e₁ m₂ e₂).1 (divCore .binary64 m₁ e₁ m₂ e₂).2.1
          (divCore .binary64 m₁ e₁ m₂ e₂).2.2 := by
      cases s <;> rfl
    rw [hcore] at hround
    have hvalue : value x / value c = s.apply 1 * (m₁ * 2 ^ e₁ / (m₂ * 2 ^ e₂)) := by
      rw [value_of_unpack hunpack₁, value_of_unpack hunpack₂, apply_positive, Int.cast_one, one_mul, mul_div_assoc]
    rw [hvalue, div_eq, hunpack₁, hunpack₂, hround]
    exact isRounded_pack (div_pos (scaled_pos pos₁ e₁) (scaled_pos pos₂ e₂))
      (roundsTo_divCore s e₁ e₂ pos₁ pos₂ hcore)

/-- A product with a positive double is rounded from the exact one. -/
theorem isRounded_mul (hx : x.isFinite) (hc : 0 < value c) : IsRounded (x * c) (value x * value c) := by
  obtain ⟨m₂, e₂, pos₂, hunpack₂⟩ := unpack_of_value_pos hc
  obtain ⟨s, hunpack₁⟩ | ⟨s, m₁, e₁, pos₁, hunpack₁⟩ := zero_or_mantissa hx
  · rw [value_of_zero hunpack₁, zero_mul, mul_eq, hunpack₁, hunpack₂]
    cases s <;> exact isRounded_pack_zero _
  · obtain ⟨-, -, -, -, normal₁, -⟩ := unpacks_finite hunpack₁
    obtain ⟨-, -, -, -, normal₂, -⟩ := unpacks_finite hunpack₂
    have hround : UnpackedFloat.mul .binary64 (.finite s m₁ e₁ pos₁) (.finite .positive m₂ e₂ pos₂) =
        roundWithAccuracy .binary64 s (m₁ * m₂) (e₁ + e₂) .exact := by
      cases s <;> rfl
    have hvalue : value x * value c = s.apply 1 * (m₁ * 2 ^ e₁ * (m₂ * 2 ^ e₂)) := by
      rw [value_of_unpack hunpack₁, value_of_unpack hunpack₂, apply_positive, Int.cast_one, one_mul, mul_assoc]
    rw [hvalue, mul_eq, hunpack₁, hunpack₂, hround]
    exact isRounded_pack (mul_pos (scaled_pos pos₁ e₁) (scaled_pos pos₂ e₂))
      (roundsTo_product s pos₁ pos₂ normal₁ normal₂)

/-- A mantissa in any place is rounded, with its sign. -/
theorem isRounded_round (s : Sign) {n : ℕ} (pos : 0 < n) (e : ℤ) :
    IsRounded (.ofModel (Float.Model.pack (UnpackedFloat.round .binary64 s n e))) (s.apply n * 2 ^ e) := by
  obtain ⟨hsign, hsize⟩ := roundsTo_round s pos e
  have hvalue : (s.apply n : ℚ) * 2 ^ e = s.apply 1 * (n * 2 ^ e) := by
    cases s <;> simp [apply_positive, apply_negative]
  rw [hvalue]
  exact isRounded_of_sign (isNaN_pack_of_ne (roundWithAccuracy_ne _ _ _ _ _)) (scaled_pos pos e) hsign hsize

/-- A number in any place is rounded. -/
theorem isRounded_normalize (m e : ℤ) (s : Sign) :
    IsRounded (.ofModel (Float.Model.pack (UnpackedFloat.normalize .binary64 m e s))) (m * 2 ^ e) := by
  obtain hneg | rfl | hpos := lt_trichotomy m 0
  · obtain ⟨n, rfl⟩ : ∃ n : ℕ, m = -n := ⟨(-m).toNat, by omega⟩
    have hround : UnpackedFloat.normalize .binary64 (-n) e s = UnpackedFloat.round .binary64 .negative n e := by
      simp only [UnpackedFloat.normalize, Int.compare_eq_lt.mpr hneg, neg_neg, Int.toNat_natCast]
    rw [hround]
    exact isRounded_round .negative (by omega) e
  · rw [Int.cast_zero, zero_mul]
    exact isRounded_pack_zero s
  · obtain ⟨n, rfl⟩ := Int.eq_ofNat_of_zero_le hpos.le
    have hround : UnpackedFloat.normalize .binary64 n e s = UnpackedFloat.round .binary64 .positive n e := by
      simp only [UnpackedFloat.normalize, Int.compare_eq_gt.mpr hpos, Int.toNat_natCast]
    rw [hround]
    exact isRounded_round .positive (by omega) e

/-- A mantissa in its place is rounded to the magnitude that it makes up. -/
theorem roundsTo_mantissa {m n : ℕ} {e : ℤ} (width : m < 2 ^ 53) (least : -1074 ≤ e) (normal : e = -1074 ∨ 2 ^ 52 ≤ m)
    (magnitude : (n : ℤ) = min ((e + 1074) * 2 ^ 52 + m) (2047 * 2 ^ 52)) : RoundsTo (m * 2 ^ e) n := by
  have hpow := zpow_pos (two_pos (α := ℚ)) e
  have hexact : StandsFor m .exact (m * 2 ^ e / 2 ^ e) := mul_div_cancel_right₀ _ hpow.ne'
  refine ⟨least, ?_, normal.imp_right fun h => ?_, hexact, magnitude⟩
  · refine lt_of_lt_of_eq ?_ (two_zpow_add e 53).symm
    exact mul_lt_mul_of_pos_right (by exact_mod_cast width) hpow
  · refine (two_zpow_add e 52).trans_le ?_
    exact mul_le_mul_of_nonneg_right (by exact_mod_cast h) hpow.le

/-- A mantissa in its place is packed exactly. -/
theorem isRounded_pack_finite (s : Sign) {m : ℕ} {e : ℤ} (pos : 0 < m) (width : m < 2 ^ 53) (least : -1074 ≤ e)
    (normal : e = -1074 ∨ 2 ^ 52 ≤ m) :
    IsRounded (.ofModel (Float.Model.pack (.finite s m e pos))) (s.apply 1 * (m * 2 ^ e)) := by
  obtain ⟨hsign, hmagnitude⟩ := sign_magnitude_pack_finite (s := s) pos width least normal
  exact isRounded_of_sign (isNaN_pack_of_ne nofun) (scaled_pos pos e) hsign
    (roundsTo_mantissa width least normal hmagnitude)

/-- Doubles are subtracted once they are unpacked. -/
theorem sub_eq (x y : Float) :
    x - y = .ofModel (Float.Model.pack (UnpackedFloat.sub .binary64 x.toModel.unpack y.toModel.unpack)) := rfl

/-- A difference from a positive double is rounded from the exact one. -/
theorem isRounded_sub (hx : x.isFinite) (hc : 0 < value c) : IsRounded (x - c) (value x - value c) := by
  obtain ⟨m₂, e₂, pos₂, hunpack₂⟩ := unpack_of_value_pos hc
  obtain ⟨-, width, least, -, normal, -⟩ := unpacks_finite hunpack₂
  obtain ⟨s, hunpack₁⟩ | ⟨s, m₁, e₁, pos₁, hunpack₁⟩ := zero_or_mantissa hx
  · have hvalue : value x - value c = Sign.negative.apply 1 * (m₂ * 2 ^ e₂) := by
      rw [value_of_zero hunpack₁, value_of_unpack hunpack₂, apply_positive, apply_negative]
      push_cast
      ring
    rw [hvalue, sub_eq, hunpack₁, hunpack₂]
    exact isRounded_pack_finite .negative pos₂ width least normal
  · obtain ⟨k₁, hk₁⟩ : ∃ k, (e₁ - min e₁ e₂).toNat = k := ⟨_, rfl⟩
    obtain ⟨k₂, hk₂⟩ : ∃ k, (e₂ - min e₁ e₂).toNat = k := ⟨_, rfl⟩
    have hsub : UnpackedFloat.sub .binary64 (.finite s m₁ e₁ pos₁) (.finite .positive m₂ e₂ pos₂) =
        UnpackedFloat.normalize .binary64 (s.apply (m₁ * 2 ^ k₁ : ℕ) - (m₂ * 2 ^ k₂ : ℕ)) (min e₁ e₂) .positive := by
      rw [← hk₁, ← hk₂, ← Nat.shiftLeft_eq, ← Nat.shiftLeft_eq]
      rfl
    have hpow₁ : (2 : ℚ) ^ e₁ = 2 ^ k₁ * 2 ^ min e₁ e₂ := by rw [← two_zpow_add]; congr 1; omega
    have hpow₂ : (2 : ℚ) ^ e₂ = 2 ^ k₂ * 2 ^ min e₁ e₂ := by rw [← two_zpow_add]; congr 1; omega
    have hvalue : value x - value c = (s.apply (m₁ * 2 ^ k₁ : ℕ) - (m₂ * 2 ^ k₂ : ℕ) : ℤ) * 2 ^ min e₁ e₂ := by
      rw [value_of_unpack hunpack₁, value_of_unpack hunpack₂, hpow₁, hpow₂]
      cases s <;> simp only [apply_positive, apply_negative] <;> push_cast <;> ring
    rw [hvalue, sub_eq, hunpack₁, hunpack₂, hsub]
    exact isRounded_normalize _ _ _

/-- A finite double is rounded from its own value. -/
theorem isRounded_value (hx : x.isFinite) : IsRounded x (value x) := by
  have hnumber := isNaN_of_isFinite hx
  obtain ⟨s, hunpack⟩ | ⟨s, m, e, pos, hunpack⟩ := zero_or_mantissa hx
  · have hshape := unpacks x
    rw [hunpack] at hshape
    rw [value_of_zero hunpack]
    refine isRounded_zero hnumber ?_
    generalize sign x = t at hshape
    cases hshape with
    | zero first => exact first
  · obtain ⟨hsign, width, least, greatest, normal, hmagnitude⟩ := unpacks_finite hunpack
    rw [value_of_unpack hunpack]
    refine isRounded_of_sign hnumber (scaled_pos pos e) hsign (roundsTo_mantissa width least normal ?_)
    rw [hmagnitude]
    omega

/-- Finite doubles are in the order of their values. -/
theorem le_iff_value (hx : x.isFinite) (hy : y.isFinite) : x ≤ y ↔ value x ≤ value y := by
  refine ⟨fun h => ?_, (isRounded_value hx).mono (isRounded_value hy)⟩
  by_contra hlt
  have hback := (isRounded_value hy).mono (isRounded_value hx) (not_le.mp hlt).le
  have hequal : x == y := by
    obtain h | h := le_iff.mp h
    · exact absurd h ((le_iff_not_lt (isNaN_of_isFinite hy) (isNaN_of_isFinite hx)).mp hback)
    · exact h
  have hzeros : value 0.0 = value (-0.0) := rfl
  obtain rfl | ⟨rfl, rfl⟩ | ⟨rfl, rfl⟩ := eq_or_zeros_of_beq hequal
  · exact hlt le_rfl
  · exact hlt hzeros.le
  · exact hlt hzeros.ge

/-- Doubles at most each other are equal. -/
theorem beq_of_le_of_le {x y : Float} (h : x ≤ y) (h' : y ≤ x) : x == y := by
  obtain ⟨hx, hy⟩ := numbers_of_le h
  exact (le_iff.mp h).resolve_left ((le_iff_not_lt hy hx).mp h')

/-- They are the same, unless they are zeros. -/
theorem eq_of_le_of_le {x y : Float} (h : x ≤ y) (h' : y ≤ x) (some : value y ≠ 0) : x = y := by
  obtain heq | ⟨-, rfl⟩ | ⟨-, rfl⟩ := eq_or_zeros_of_beq (beq_of_le_of_le h h')
  · exact heq
  · exact absurd rfl some
  · exact absurd rfl some

/-- A number is finite or an infinity. -/
theorem isFinite_or_infinite (h : x.isNaN = false) : x.isFinite ∨ ∃ s, x.toModel.unpack = .infinity s := by
  have hnumber : x.toModel.unpack ≠ .notANumber := fun hn => Bool.eq_false_iff.mp h (isNaN_iff.mpr hn)
  change x.toModel.unpack.isFinite ∨ _
  generalize x.toModel.unpack = u at hnumber
  cases u with
  | notANumber => exact absurd rfl hnumber
  | infinity s => exact .inr ⟨s, rfl⟩
  | zero | finite => exact .inl rfl

/-- Up to the infinities there are only so many steps. -/
theorem steps_of_isFinite (h : x.isFinite) : -(2047 * 2 ^ 52) < steps x ∧ steps x < 2047 * 2 ^ 52 := by
  have hfinite : x.toModel.unpack.isFinite := h
  have hshape := unpacks x
  rw [steps]
  have hsteps := apply_cases (sign x) (magnitude x)
  generalize x.toModel.unpack = u at hfinite hshape
  generalize sign x = t at hshape hsteps ⊢
  cases hshape with
  | notANumber | infinity => cases hfinite
  | zero first => omega
  | finite => omega

/-- An infinity is as far from zero as a number can be. -/
theorem steps_of_infinite {s : Sign} (h : x.toModel.unpack = .infinity s) : steps x = s.apply (2047 * 2 ^ 52) := by
  have hshape := unpacks x
  rw [h] at hshape
  rw [steps]
  generalize sign x = t at hshape ⊢
  cases hshape with
  | infinity last => rw [last]; rfl

/-- No number is further away. -/
theorem steps_bounds (h : x.isNaN = false) : -(2047 * 2 ^ 52) ≤ steps x ∧ steps x ≤ 2047 * 2 ^ 52 := by
  obtain hfinite | ⟨s, hs⟩ := isFinite_or_infinite h
  · exact (steps_of_isFinite hfinite).imp le_of_lt le_of_lt
  · have := apply_cases s (2047 * 2 ^ 52)
    rw [steps_of_infinite hs]
    omega

/-- An infinity is packed as one. -/
theorem pack_infinity (s : Sign) : (Float.ofModel (Float.Model.pack (.infinity s))).isNaN = false ∧
    steps (.ofModel (Float.Model.pack (.infinity s))) = s.apply (2047 * 2 ^ 52) := by
  obtain ⟨hsign, hmagnitude⟩ : sign (.ofModel (Float.Model.pack (.infinity s))) = s ∧
      magnitude (.ofModel (Float.Model.pack (.infinity s))) = 2047 * 2 ^ 52 :=
    sign_magnitude_of_bits (by cases s <;> rfl) (by norm_num)
  refine ⟨isNaN_pack_of_ne nofun, ?_⟩
  rw [steps, hsign, hmagnitude]
  rfl

/-- An operation that rounds an exact one that keeps the order, and leaves the infinities where they are, keeps the
order. -/
theorem rounded_mono (op : Float → Float) {f : ℚ → ℚ} (mono : Monotone f)
    (finite : ∀ x, x.isFinite → IsRounded (op x) (f (value x)))
    (infinite : ∀ x s, x.toModel.unpack = .infinity s →
      (op x).isNaN = false ∧ steps (op x) = s.apply (2047 * 2 ^ 52)) (h : x ≤ y) :
    op x ≤ op y := by
  obtain ⟨hx, hy⟩ := numbers_of_le h
  have hsteps := (le_iff_steps hx hy).mp h
  obtain hxf | ⟨s, hxi⟩ := isFinite_or_infinite hx
  · obtain hyf | ⟨t, hyi⟩ := isFinite_or_infinite hy
    · exact (finite x hxf).mono (finite y hyf) (mono ((le_iff_value hxf hyf).mp h))
    · have hx := steps_of_isFinite hxf
      rw [steps_of_infinite hyi] at hsteps
      cases t with
      | negative =>
        rw [apply_negative] at hsteps
        omega
      | positive =>
        obtain ⟨hn, hto⟩ := infinite y .positive hyi
        rw [le_iff_steps (finite x hxf).number hn, hto]
        exact (steps_bounds (finite x hxf).number).2
  · obtain ⟨hn, hto⟩ := infinite x s hxi
    have hnumber : (op y).isNaN = false := by
      obtain hyf | ⟨t, hyi⟩ := isFinite_or_infinite hy
      · exact (finite y hyf).number
      · exact (infinite y t hyi).1
    rw [le_iff_steps hn hnumber, hto]
    cases s with
    | negative => exact (steps_bounds hnumber).1
    | positive =>
      obtain hyf | ⟨t, hyi⟩ := isFinite_or_infinite hy
      · have hy := steps_of_isFinite hyf
        rw [steps_of_infinite hxi, apply_positive] at hsteps
        omega
      · rw [(infinite y t hyi).2]
        rwa [steps_of_infinite hxi, steps_of_infinite hyi] at hsteps

/-- An infinity is left where it is by dividing it by a positive double. -/
theorem infinite_div {s : Sign} (hx : x.toModel.unpack = .infinity s) (hc : 0 < value c) :
    (x / c).isNaN = false ∧ steps (x / c) = s.apply (2047 * 2 ^ 52) := by
  obtain ⟨m, e, pos, hunpack⟩ := unpack_of_value_pos hc
  rw [div_eq, hx, hunpack]
  cases s <;> exact pack_infinity _

/-- So it is by multiplying it with one. -/
theorem infinite_mul {s : Sign} (hx : x.toModel.unpack = .infinity s) (hc : 0 < value c) :
    (x * c).isNaN = false ∧ steps (x * c) = s.apply (2047 * 2 ^ 52) := by
  obtain ⟨m, e, pos, hunpack⟩ := unpack_of_value_pos hc
  rw [mul_eq, hx, hunpack]
  cases s <;> exact pack_infinity _

/-- An infinity is left where it is by subtracting a positive double. -/
theorem infinite_sub {s : Sign} (hx : x.toModel.unpack = .infinity s) (hc : 0 < value c) :
    (x - c).isNaN = false ∧ steps (x - c) = s.apply (2047 * 2 ^ 52) := by
  obtain ⟨m, e, pos, hunpack⟩ := unpack_of_value_pos hc
  rw [sub_eq, hx, hunpack]
  cases s <;> exact pack_infinity _

/-- Quotients by a positive double are in the order of what is divided. -/
theorem div_mono (h : x ≤ y) (hc : 0 < value c) : x / c ≤ y / c :=
  rounded_mono (· / c) (fun _ _ hqr => div_le_div_of_nonneg_right hqr hc.le) (fun _ hx => isRounded_div hx hc)
    (fun _ _ hx => infinite_div hx hc) h

/-- Products with a positive double are in the order of the other factors. -/
theorem mul_mono (h : x ≤ y) (hc : 0 < value c) : x * c ≤ y * c :=
  rounded_mono (· * c) (fun _ _ hqr => mul_le_mul_of_nonneg_right hqr hc.le) (fun _ hx => isRounded_mul hx hc)
    (fun _ _ hx => infinite_mul hx hc) h

/-- Quotients of a double that is not negative are in the opposite order of the divisors. -/
theorem div_anti {a b : Float} (hx : 0.0 ≤ x) (ha : 0 < value a) (hab : value a ≤ value b) :
    x / b ≤ x / a := by
  have hb := ha.trans_le hab
  obtain hfinite | ⟨s, hs⟩ := isFinite_or_infinite (numbers_of_le hx).2
  · have hvalue : 0 ≤ value x := (le_iff_value rfl hfinite).mp hx
    exact (isRounded_div hfinite hb).mono (isRounded_div hfinite ha) (div_le_div_of_nonneg_left hvalue ha hab)
  · obtain ⟨hn, hsteps⟩ := infinite_div hs hb
    obtain ⟨hn', hsteps'⟩ := infinite_div hs ha
    exact (le_iff_steps hn hn').mpr (hsteps.trans hsteps'.symm).le

/-- Differences from a positive double are in the order of what it is subtracted from. -/
theorem sub_mono (h : x ≤ y) (hc : 0 < value c) : x - c ≤ y - c :=
  rounded_mono (· - c) (fun _ _ hqr => sub_le_sub hqr le_rfl) (fun _ hx => isRounded_sub hx hc)
    (fun _ _ hx => infinite_sub hx hc) h

/-- Factors can be exchanged. -/
theorem mul_swap (x y : Float) : x * y = y * x := by
  rw [mul_eq, mul_eq]
  generalize x.toModel.unpack = u
  generalize y.toModel.unpack = v
  have hsign (s t : Sign) : s * t = t * s := by cases s <;> cases t <;> rfl
  have hswap : UnpackedFloat.mul .binary64 u v = UnpackedFloat.mul .binary64 v u := by
    cases u with
    | notANumber => cases v <;> rfl
    | infinity s | zero s =>
      cases v with
      | notANumber => rfl
      | infinity t | zero t | finite t => cases s <;> cases t <;> rfl
    | finite s m e =>
      cases v with
      | notANumber => rfl
      | infinity t | zero t => cases s <;> cases t <;> rfl
      | finite t n f =>
        change roundWithAccuracy .binary64 (s * t) (m * n) (e + f) .exact =
          roundWithAccuracy .binary64 (t * s) (n * m) (f + e) .exact
        rw [hsign, Nat.mul_comm, Int.add_comm]
  rw [hswap]

/-- Small whole numbers are in order. -/
theorem ofNat_le_ofNat {m n : ℕ} (h : m ≤ n) (small : n < 2 ^ 53) : (Scalar.ofNat m : Float) ≤ Scalar.ofNat n := by
  have hof {k : ℕ} (hk : k < 2 ^ 53) : (Scalar.ofNat k : Float) = k.toUInt64.toFloat * 1.0 :=
    dif_pos ⟨hk, Nat.zero_le 22⟩
  have hone : 0 < value 1.0 := by decide +kernel
  have hcast {k : ℕ} (hk : k < 2 ^ 53) : IsRounded k.toUInt64.toFloat k := by
    have hto : k.toUInt64.toFloat =
        .ofModel (Float.Model.pack (UnpackedFloat.normalize .binary64 k.toUInt64.toNat 0 .positive)) := rfl
    have hsame : k.toUInt64.toNat = k := Nat.mod_eq_of_lt (by omega)
    rw [hto, hsame]
    simpa using isRounded_normalize k 0 .positive
  have hm := h.trans_lt small
  rw [hof hm, hof small]
  exact mul_mono ((hcast hm).mono (hcast small) (by exact_mod_cast h)) hone

/-- What is above zero has a positive value. -/
theorem value_pos (h : 0.0 < x) (finite : x.isFinite) : 0 < value x := by
  have hnot : ¬x ≤ 0.0 := fun hle =>
    absurd h ((le_iff_not_lt (isNaN_of_isFinite finite) rfl).mp hle)
  rw [le_iff_value finite rfl, not_le] at hnot
  exact hnot

/-- A mantissa has a quotient by every number. -/
theorem div_finite_ne {s : Sign} {m : ℕ} {e : ℤ} {pos : 0 < m} {v : UnpackedFloat} (h : v ≠ .notANumber) :
    UnpackedFloat.div .binary64 (.finite s m e pos) v ≠ .notANumber := by
  cases v with
  | notANumber => exact absurd rfl h
  | infinity | zero => nofun
  | finite => exact roundWithAccuracy_ne _ _ _ _ _

/-- A positive number over something is a number, unless that is none, or both are infinite. -/
theorem isNaN_div_iff (h : 0.0 < x) :
    (x / y).isNaN ↔ y.isNaN ∨ ¬x.isFinite ∧ ¬y.isFinite := by
  rw [div_eq, isNaN_pack, isNaN_iff]
  change _ ↔ _ ∨ ¬x.toModel.unpack.isFinite ∧ ¬y.toModel.unpack.isFinite
  have hnumber : x.toModel.unpack ≠ .notANumber := by
    rw [Ne, ← isNaN_iff, isNaN_of_beq (numbers_of_lt h).2]
    decide
  have hzero (s : Sign) : x.toModel.unpack ≠ .zero s := by
    intro hs
    have hfinite : x.isFinite := by
      change x.toModel.unpack.isFinite
      rw [hs]
      rfl
    exact (value_pos h hfinite).ne' (value_of_zero hs)
  generalize x.toModel.unpack = u at hnumber hzero
  generalize y.toModel.unpack = v
  cases u with
  | notANumber => exact absurd rfl hnumber
  | zero s => exact absurd rfl (hzero s)
  | infinity s =>
    cases v with
    | notANumber => exact ⟨fun _ => .inl rfl, fun _ => rfl⟩
    | infinity => exact ⟨fun _ => .inr ⟨nofun, nofun⟩, fun _ => rfl⟩
    | zero | finite =>
      refine ⟨nofun, ?_⟩
      rintro (h | ⟨-, h⟩)
      · cases h
      · exact absurd rfl h
  | finite s m e pos =>
    cases v with
    | notANumber => exact ⟨fun _ => .inl rfl, fun _ => rfl⟩
    | infinity | zero | finite =>
      refine ⟨fun h => absurd h (div_finite_ne nofun), ?_⟩
      rintro (h | ⟨h, -⟩)
      · cases h
      · exact absurd rfl h

section Clamping

variable {lo hi : Float}

/-- What is not a number is not moved. -/
theorem clamp_of_isNaN (h : x.isNaN) : Scalar.clamp lo hi x = x := by
  have hlo : ¬x < lo := fun hlt => by
    rw [isNaN_of_beq (numbers_of_lt hlt).1] at h
    cases h
  have hhi : ¬x > hi := fun hlt => by
    rw [isNaN_of_beq (numbers_of_lt hlt).2] at h
    cases h
  rw [Scalar.clamp, if_neg hlo, if_neg hhi]

/-- A number is moved between limits that are in order. -/
theorem clamp_mem (ordered : lo ≤ hi) (h : x.isNaN = false) :
    lo ≤ Scalar.clamp lo hi x ∧ Scalar.clamp lo hi x ≤ hi := by
  obtain ⟨hlo, hhi⟩ := numbers_of_le ordered
  rw [Scalar.clamp]
  split
  · exact ⟨le_self hlo, ordered⟩
  · next hlow =>
    split
    · exact ⟨ordered, le_self hhi⟩
    · next hhigh => exact ⟨(le_iff_not_lt hlo h).mpr hlow, (le_iff_not_lt h hhi).mpr hhigh⟩

end Clamping

end Values

/-- A function keeps the order of doubles. What is not a number has no image that is one. -/
structure IsMonotone (f : Float → Float) : Prop where
  mono {x y : Float} (h : x ≤ y) : f x ≤ f y
  isNaN {x : Float} (h : x.isNaN) : (f x).isNaN

namespace IsMonotone

variable {f g : Float → Float}

/-- One such function after another is one. -/
theorem comp (hg : IsMonotone g) (hf : IsMonotone f) : IsMonotone fun x => g (f x) :=
  ⟨fun h => hg.mono (hf.mono h), fun h => hg.isNaN (hf.isNaN h)⟩

/-- Something that is not below another thing does not get below it. -/
theorem not_lt (hf : IsMonotone f) {x y : Float} (h : ¬x < y) : ¬f x < f y := by
  intro hlt
  obtain ⟨hx, hy⟩ := numbers_of_lt hlt
  rw [beq_self_iff] at hx hy
  have hx' : x.isNaN = false := Bool.eq_false_iff.mpr fun hn => Bool.eq_false_iff.mp hx (hf.isNaN hn)
  have hy' : y.isNaN = false := Bool.eq_false_iff.mpr fun hn => Bool.eq_false_iff.mp hy (hf.isNaN hn)
  exact (le_iff_not_lt hy hx).mp (hf.mono ((le_iff_not_lt hy' hx').mpr h)) hlt

end IsMonotone

section Constants

variable {c : Float}

/-- Dividing by something positive keeps the order. -/
theorem isMonotone_div (hc : 0 < value c) : IsMonotone (· / c) := ⟨(div_mono · hc), fun h => isNaN_div (.inl h)⟩

/-- Multiplying with something positive keeps the order. -/
theorem isMonotone_mul (hc : 0 < value c) : IsMonotone (· * c) := ⟨(mul_mono · hc), fun h => isNaN_mul (.inl h)⟩

/-- Subtracting something positive keeps the order. -/
theorem isMonotone_sub (hc : 0 < value c) : IsMonotone (· - c) := ⟨(sub_mono · hc), fun h => isNaN_sub (.inl h)⟩

/-- So does multiplying it with something. -/
theorem isMonotone_mul_left (hc : 0 < value c) : IsMonotone (c * ·) := by
  have hswap : (c * ·) = (· * c) := funext (mul_swap c)
  rw [hswap]
  exact isMonotone_mul hc

/-- The function with one value below a place and another one from there on. -/
def stepAt (place below above : Float) (x : Float) : Float := if x.isNaN then x else if x < place then below else above

/-- A step up keeps the order. -/
theorem isMonotone_stepAt {place below above : Float} (number : place.isNaN = false) (up : below ≤ above) :
    IsMonotone (stepAt place below above) := by
  obtain ⟨hbelow, habove⟩ := numbers_of_le up
  refine ⟨fun {x y} h => ?_, fun h => by rwa [stepAt, if_pos h]⟩
  obtain ⟨hx, hy⟩ := numbers_of_le h
  rw [stepAt, stepAt, if_neg (Bool.eq_false_iff.mp hx), if_neg (Bool.eq_false_iff.mp hy)]
  split
  · split
    · exact le_self hbelow
    · exact up
  · next hplace =>
    have hbehind : ¬y < place := by
      rw [lt_iff_steps hy number]
      rw [lt_iff_steps hx number] at hplace
      rw [le_iff_steps hx hy] at h
      omega
    rw [if_neg hbehind]
    exact le_self habove

end Constants

end AreaOfInterest.Double
