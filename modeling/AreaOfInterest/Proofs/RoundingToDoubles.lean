import AreaOfInterest.Proofs.Placements
import Mathlib.Algebra.Order.Field.Power
import Mathlib.Tactic.FieldSimp
import Mathlib.Tactic.Linarith

/-!
# Rounding to doubles

The result of an operation on doubles is the nearest double to the exact one. It is found from a mantissa and what is
known about the rest: bits are dropped down to the place of the number, the last one kept is rounded, and the number is
packed.

Here this is related to rational numbers. In a place that is fine enough for 53 bits a number is rounded to a magnitude,
and a larger number never to a smaller magnitude. Fractions, products and whole numbers of units are all rounded in such
a place.
-/

namespace AreaOfInterest.Double

open Float.Model UnpackedFloat

/-- What a mantissa stands for, in units of its last place, as far as the accuracy tells: itself, or something between
it and the next one, before, at or behind the middle. -/
def StandsFor (m : ℕ) : Accuracy → ℚ → Prop
  | .exact, x => x = m
  | .inexact .lt, x => m < x ∧ x < m + 1 / 2
  | .inexact .eq, x => x = m + 1 / 2
  | .inexact .gt, x => m + 1 / 2 < x ∧ x < m + 1

/-- What a mantissa stands for is not below it, and below the next one. -/
theorem StandsFor.bounds {m : ℕ} {a : Accuracy} {x : ℚ} (h : StandsFor m a x) : (m : ℚ) ≤ x ∧ x < m + 1 := by
  cases a with
  | exact =>
    rw [StandsFor] at h
    constructor <;> linarith
  | inexact o =>
    cases o <;> rw [StandsFor] at h <;> constructor <;> linarith

/-- A mantissa is extended by the bits that tell its accuracy. -/
theorem StandsFor.ofMantissaAndAccuracy {m : ℕ} {a : Accuracy} {x : ℚ} (h : StandsFor m a x) :
    StandsFor (ExtendedMantissa.ofMantissaAndAccuracy m a).mantissa
      (ExtendedMantissa.ofMantissaAndAccuracy m a).accuracy x := by
  cases a with
  | exact => exact h
  | inexact o => cases o <;> exact h

/-- Dropping the last bit of a mantissa halves what it stands for. -/
theorem StandsFor.shiftRightOne {em : ExtendedMantissa} {x : ℚ} (h : StandsFor em.mantissa em.accuracy x) :
    StandsFor em.shiftRightOne.mantissa em.shiftRightOne.accuracy (x / 2) := by
  obtain ⟨m, roundBit, stickyBit⟩ := em
  have hcast : ((m % 2 : ℕ) : ℚ) + 2 * ((m / 2 : ℕ) : ℚ) = m := by exact_mod_cast Nat.mod_add_div m 2
  have hodd : (1 != 0) = true := rfl
  obtain hm | hm := Nat.mod_two_eq_zero_or_one m <;> rw [hm] at hcast <;>
    cases roundBit <;> cases stickyBit <;>
    simp only [ExtendedMantissa.shiftRightOne, hm, bne_self_eq_false, hodd, ExtendedMantissa.accuracy, StandsFor,
      Bool.or_false, Bool.or_true] at h ⊢ <;>
    norm_num at h hcast ⊢ <;> first | linarith | (constructor <;> linarith)

/-- So does dropping several bits, as often. -/
theorem StandsFor.shiftRight {em : ExtendedMantissa} {x : ℚ} (h : StandsFor em.mantissa em.accuracy x) (n : ℕ) :
    StandsFor (em >>> n).mantissa (em >>> n).accuracy (x / 2 ^ n) := by
  induction n with
  | zero =>
    rw [pow_zero, div_one]
    exact h
  | succ n ih =>
    have hstep := ih.shiftRightOne
    rw [div_div, ← pow_succ] at hstep
    exact hstep

/-- A mantissa is rounded to itself or to the next one. -/
theorem roundToNearestEven_bounds (m : ℕ) (a : Accuracy) :
    m ≤ a.roundToNearestEven m ∧ a.roundToNearestEven m ≤ m + 1 := by
  cases a with
  | exact => simp [Accuracy.roundToNearestEven]
  | inexact o =>
    cases o with
    | lt | gt => simp [Accuracy.roundToNearestEven]
    | eq =>
      simp only [Accuracy.roundToNearestEven]
      omega

/-- Rounding keeps the order. -/
theorem StandsFor.round_mono {m m' : ℕ} {a a' : Accuracy} {x x' : ℚ} (h : StandsFor m a x) (h' : StandsFor m' a' x')
    (hle : x ≤ x') : a.roundToNearestEven m ≤ a'.roundToNearestEven m' := by
  have hfloor : m ≤ m' := by
    have : (m : ℚ) < m' + 1 := by linarith [h.bounds.1, h'.bounds.2]
    exact_mod_cast Nat.lt_succ_iff.mp (by exact_mod_cast this)
  obtain hlt | rfl := hfloor.lt_or_eq
  · have hup := (roundToNearestEven_bounds m a).2
    have hdown := (roundToNearestEven_bounds m' a').1
    omega
  · have hparity : m % 2 ≤ 1 := by omega
    cases a with
    | exact => exact (roundToNearestEven_bounds m a').1
    | inexact o =>
      cases a' with
      | exact =>
        cases o <;> simp only [StandsFor] at h h' <;> linarith
      | inexact o' =>
        cases o <;> cases o' <;> simp only [StandsFor] at h h' <;>
          first | (exfalso; linarith) | (simp [Accuracy.roundToNearestEven]; try omega)

/-- A power with a higher exponent, by its parts. -/
theorem two_zpow_add (e : ℤ) (k : ℕ) : (2 : ℚ) ^ (e + k) = 2 ^ k * 2 ^ e := by
  rw [zpow_add₀ two_ne_zero, zpow_natCast, mul_comm]

/-- In a place that is fine enough a mantissa is rounded to 53 bits, or to the next power of two. -/
theorem StandsFor.round_le {m : ℕ} {a : Accuracy} {v : ℚ} {e : ℤ} (h : StandsFor m a (v / 2 ^ e))
    (width : v < 2 ^ (e + 53)) : a.roundToNearestEven m ≤ 2 ^ 53 := by
  have hscaled : v / 2 ^ e < 2 ^ 53 := by
    rwa [div_lt_iff₀ (zpow_pos two_pos e), ← two_zpow_add e 53]
  have hm : (m : ℚ) < 2 ^ 53 := h.bounds.1.trans_lt hscaled
  have hm' : m < 2 ^ 53 := by exact_mod_cast hm
  have := (roundToNearestEven_bounds m a).2
  omega

/-- In a place that is not too fine it is rounded to no less. -/
theorem StandsFor.le_round {m : ℕ} {a : Accuracy} {v : ℚ} {e : ℤ} (h : StandsFor m a (v / 2 ^ e))
    (normal : 2 ^ (e + 52) ≤ v) : 2 ^ 52 ≤ a.roundToNearestEven m := by
  have hscaled : (2 : ℚ) ^ 52 ≤ v / 2 ^ e := by
    rwa [le_div_iff₀ (zpow_pos two_pos e), ← two_zpow_add e 52]
  have hm : (2 : ℚ) ^ 52 < m + 1 := hscaled.trans_lt h.bounds.2
  have hm' : 2 ^ 52 < m + 1 := by exact_mod_cast hm
  have := (roundToNearestEven_bounds m a).1
  omega

/-- Where a number from zero on is rounded to: in units of a place that is fine enough for 53 bits, but not finer than
the least one, to the nearest magnitude, up to that of infinity. -/
inductive RoundsTo (v : ℚ) (n : ℕ) : Prop where
  | intro {e : ℤ} {m : ℕ} {a : Accuracy} (least : -1074 ≤ e) (width : v < 2 ^ (e + 53))
    (normal : e = -1074 ∨ 2 ^ (e + 52) ≤ v) (stands : StandsFor m a (v / 2 ^ e))
    (magnitude : (n : ℤ) = min ((e + 1074) * 2 ^ 52 + a.roundToNearestEven m) (2047 * 2 ^ 52))

/-- Rounding to doubles keeps the order. -/
theorem RoundsTo.mono {v v' : ℚ} {n n' : ℕ} (h : RoundsTo v n) (h' : RoundsTo v' n') (hle : v ≤ v') : n ≤ n' := by
  obtain @⟨e, m, a, least, width, normal, stands, magnitude⟩ := h
  obtain @⟨e', m', a', least', width', normal', stands', magnitude'⟩ := h'
  have hplace : e ≤ e' := by
    obtain rfl | hnormal := normal
    · exact least'
    · have hpow : (2 : ℚ) ^ (e + 52) < 2 ^ (e' + 53) := hnormal.trans_lt (hle.trans_lt width')
      have := (zpow_lt_zpow_iff_right₀ (one_lt_two (α := ℚ))).mp hpow
      omega
  obtain hlt | rfl := hplace.lt_or_eq
  · -- the coarser place is that of a normal number, which is above all that the finer place can hold
    have hfull := stands.round_le width
    have hnormal := stands'.le_round (normal'.resolve_left (by omega))
    omega
  · have hunits := stands.round_mono stands' (div_le_div_of_nonneg_right hle (zpow_pos two_pos e).le)
    omega

/-- Nothing is rounded to zero. -/
theorem RoundsTo.eq_zero {n : ℕ} (h : RoundsTo 0 n) : n = 0 := by
  obtain @⟨e, m, a, least, width, normal, stands, magnitude⟩ := h
  obtain rfl | hnormal := normal
  · rw [zero_div] at stands
    have hm : (m : ℚ) ≤ 0 := stands.bounds.1
    have hm0 : m = 0 := by exact_mod_cast le_antisymm hm (Nat.cast_nonneg m)
    subst hm0
    cases a with
    | exact => simpa [Accuracy.roundToNearestEven] using magnitude
    | inexact o =>
      have hlow := stands.bounds.1
      cases o <;> rw [StandsFor] at stands <;> norm_num at stands
  · exact absurd hnormal (not_le.mpr (zpow_pos two_pos _))

/-- The bits of packed components, as a number. -/
theorem toNat_packComponents (s : Sign) (e : BitVec 11) (m : BitVec 52) :
    (packComponents .binary64 s e m).toNat = s.toBitVec.toNat * 2 ^ 63 + e.toNat * 2 ^ 52 + m.toNat := by
  have happend {i j : ℕ} (x : BitVec i) (y : BitVec j) : (x ++ y).toNat = x.toNat * 2 ^ j + y.toNat := by
    rw [BitVec.toNat_append, ← Nat.shiftLeft_add_eq_or_of_lt y.isLt, Nat.shiftLeft_eq]
  change (s.toBitVec ++ e ++ m).toNat = _
  rw [happend, happend]
  omega

/-- Sign and magnitude of a double are read off its bits. -/
theorem sign_magnitude_of_bits {x : Float} {s : Sign} {n : ℕ} (bits : x.toBits.toNat = s.toBitVec.toNat * 2 ^ 63 + n)
    (small : n < 2 ^ 63) : sign x = s ∧ magnitude x = n := by
  rw [sign, magnitude, bits]
  cases s with
  | negative =>
    have hbit : Sign.negative.toBitVec.toNat = 1 := rfl
    rw [hbit, if_neg (by omega)]
    exact ⟨rfl, by omega⟩
  | positive =>
    have hbit : Sign.positive.toBitVec.toNat = 0 := rfl
    rw [hbit, if_pos (by omega)]
    exact ⟨rfl, by omega⟩

/-- A double with a mantissa in its place is packed by its sign and magnitude, up to that of infinity. -/
theorem sign_magnitude_pack_finite {s : Sign} {m : ℕ} {e : ℤ} (pos : 0 < m) (width : m < 2 ^ 53) (least : -1074 ≤ e)
    (normal : e = -1074 ∨ 2 ^ 52 ≤ m) :
    sign (.ofModel (Float.Model.pack (.finite s m e pos))) = s ∧
      (magnitude (.ofModel (Float.Model.pack (.finite s m e pos))) : ℤ) =
        min ((e + 1074) * 2 ^ 52 + m) (2047 * 2 ^ 52) := by
  have hbits : (Float.ofModel (Float.Model.pack (.finite s m e pos))).toBits.toNat =
      (if 2 ^ 11 ≤ (e + 1023 + 52).toNat + 1 then packedInfinity .binary64 s
      else if m.log2 + 1 = 53 then
        packComponents .binary64 s (BitVec.ofNat 11 (e + 1023 + 52).toNat) (BitVec.ofNat 52 m)
      else packComponents .binary64 s 0#11 (BitVec.ofNat 52 m)).toNat := rfl
  generalize Float.ofModel (Float.Model.pack (.finite s m e pos)) = x at hbits ⊢
  have hlog : m.log2 + 1 = 53 ↔ 2 ^ 52 ≤ m := by
    rw [← Nat.le_log2 pos.ne']
    have := (Nat.log2_lt pos.ne').mpr width
    omega
  have hfound {n : ℕ} (hn : (n : ℤ) = min ((e + 1074) * 2 ^ 52 + m) (2047 * 2 ^ 52))
      (h : x.toBits.toNat = s.toBitVec.toNat * 2 ^ 63 + n) :
      sign x = s ∧ (magnitude x : ℤ) = min ((e + 1074) * 2 ^ 52 + m) (2047 * 2 ^ 52) := by
    obtain ⟨hsign, hmagnitude⟩ := sign_magnitude_of_bits h (by omega)
    exact ⟨hsign, by rw [hmagnitude, hn]⟩
  split at hbits
  · -- the exponent is out of range, which makes an infinity
    next hlast =>
    have hlastExponent : (-1#11).toNat = 2047 := rfl
    have hnoMantissa : (0 : BitVec 52).toNat = 0 := rfl
    have hinfinity : (packedInfinity .binary64 s).toNat = s.toBitVec.toNat * 2 ^ 63 + 2047 * 2 ^ 52 := by
      rw [packedInfinity, toNat_packComponents, hlastExponent, hnoMantissa, Nat.add_zero]
    exact hfound (n := 2047 * 2 ^ 52) (by omega) (by rw [hbits, hinfinity])
  · next hbelow =>
    obtain ⟨k, hk⟩ : ∃ k, (e + 1023 + 52).toNat = k := ⟨_, rfl⟩
    rw [hk] at hbelow hbits
    have hexponent : (k : ℤ) = e + 1075 := by omega
    split at hbits
    · next hnormal =>
      rw [toNat_packComponents, BitVec.toNat_ofNat, BitVec.toNat_ofNat, Nat.mod_eq_of_lt (by omega)] at hbits
      have hfull := hlog.mp hnormal
      refine hfound (n := k * 2 ^ 52 + m % 2 ^ 52) ?_ ?_
      · omega
      · rw [hbits, Nat.add_assoc]
    · next hsubnormal =>
      have hsmall : m < 2 ^ 52 := Nat.lt_of_not_le (mt hlog.mpr hsubnormal)
      rw [toNat_packComponents, BitVec.toNat_ofNat, BitVec.toNat_ofNat, Nat.zero_mod, Nat.mod_eq_of_lt hsmall] at hbits
      exact hfound (n := m) (by omega) (by rw [hbits, Nat.zero_mul, Nat.add_zero])

/-- A zero is packed by its sign. -/
theorem sign_magnitude_pack_zero (s : Sign) :
    sign (.ofModel (Float.Model.pack (.zero s))) = s ∧ magnitude (.ofModel (Float.Model.pack (.zero s))) = 0 := by
  refine sign_magnitude_of_bits ?_ (Nat.two_pow_pos 63)
  cases s <;> rfl

/-- A mantissa is shifted to its place by dropping bits. That place is fine enough for 53 bits, but not finer than the
least one. -/
theorem shiftToTargetExponent_eq (m : ℕ) (e : ℤ) (a : Accuracy) :
    shiftToTargetExponent .binary64 m e a =
      (ExtendedMantissa.ofMantissaAndAccuracy m a >>> (max (m.log2 + 1 + e - 53) (-1074) - e).toNat,
        e + (max (m.log2 + 1 + e - 53) (-1074) - e).toNat) := rfl

/-- A rounded mantissa is put into its place. If it has one bit too many it is a power of two, and nothing is lost. -/
theorem shiftToTargetExponent_rounded {m : ℕ} {e : ℤ} (width : m ≤ 2 ^ 53) (least : -1074 ≤ e)
    (normal : e = -1074 ∨ 2 ^ 52 ≤ m) {m' : ℕ} {e' : ℤ}
    (hm' : (shiftToTargetExponent .binary64 m e .exact).1.mantissa = m')
    (he' : (shiftToTargetExponent .binary64 m e .exact).2 = e') :
    m' < 2 ^ 53 ∧ -1074 ≤ e' ∧ (e' = -1074 ∨ 2 ^ 52 ≤ m') ∧
      (e' + 1074) * 2 ^ 52 + (m' : ℤ) = (e + 1074) * 2 ^ 52 + m := by
  rw [shiftToTargetExponent_eq] at hm' he'
  obtain hlt | rfl := width.lt_or_eq
  · have hlog : m.log2 < 53 := by
      obtain rfl | hpos := Nat.eq_zero_or_pos m
      · decide
      · exact (Nat.log2_lt hpos.ne').mpr hlt
    have hnone : (max ((m.log2 : ℤ) + 1 + e - 53) (-1074) - e).toNat = 0 := by omega
    rw [hnone] at hm' he'
    have hsame : m = m' := hm'
    have hplace : e = e' := by simpa using he'
    subst hsame hplace
    exact ⟨hlt, least, normal, rfl⟩
  · have hone : (max (((2 ^ 53 : ℕ).log2 : ℤ) + 1 + e - 53) (-1074) - e).toNat = 1 := by
      rw [Nat.log2_two_pow]
      omega
    rw [hone] at hm' he'
    have hhalf : 2 ^ 53 / 2 = m' := hm'
    have hplace : e + 1 = e' := he'
    subst hplace
    omega

/-- What a mantissa stands for is rounded, when its place is fine enough to begin with. -/
theorem roundsTo_roundWithAccuracy (s : Sign) {m : ℕ} {e : ℤ} {a : Accuracy} {v : ℚ}
    (stands : StandsFor m a (v / 2 ^ e)) (fine : e ≤ max (m.log2 + 1 + e - 53) (-1074)) :
    sign (.ofModel (Float.Model.pack (roundWithAccuracy .binary64 s m e a))) = s ∧
      RoundsTo v (magnitude (.ofModel (Float.Model.pack (roundWithAccuracy .binary64 s m e a)))) := by
  obtain ⟨k, hk⟩ := Int.eq_ofNat_of_zero_le (sub_nonneg.mpr fine)
  have hpos := zpow_pos (two_pos (α := ℚ)) e
  have hlow : (m : ℚ) * 2 ^ e ≤ v := (le_div_iff₀ hpos).mp stands.bounds.1
  have hhigh : v < (m + 1) * 2 ^ e := (div_lt_iff₀ hpos).mp stands.bounds.2
  have hfirst : shiftToTargetExponent .binary64 m e a = (ExtendedMantissa.ofMantissaAndAccuracy m a >>> k, e + k) := by
    rw [shiftToTargetExponent_eq, hk, Int.toNat_natCast]
  have hwidth : v < 2 ^ (e + k + 53) := by
    have hm : (m : ℚ) + 1 ≤ 2 ^ (m.log2 + 1) := by exact_mod_cast Nat.lt_log2_self
    calc v
      _ < (m + 1) * 2 ^ e := hhigh
      _ ≤ 2 ^ (m.log2 + 1) * 2 ^ e := mul_le_mul_of_nonneg_right hm hpos.le
      _ = 2 ^ (e + (m.log2 + 1 : ℕ)) := (two_zpow_add e _).symm
      _ ≤ 2 ^ (e + k + 53) := zpow_le_zpow_right₀ one_le_two (by push_cast; omega)
  have hnormal : e + k = -1074 ∨ 2 ^ (e + k + 52) ≤ v := by
    refine or_iff_not_imp_left.mpr fun hfine => ?_
    have hm0 : m ≠ 0 := by
      rintro rfl
      rw [Nat.log2_zero] at fine hk
      omega
    have hm : (2 : ℚ) ^ m.log2 ≤ m := by exact_mod_cast Nat.log2_self_le hm0
    calc (2 : ℚ) ^ (e + k + 52)
      _ = 2 ^ (e + (m.log2 : ℕ)) := by congr 1; omega
      _ = 2 ^ m.log2 * 2 ^ e := two_zpow_add e _
      _ ≤ m * 2 ^ e := mul_le_mul_of_nonneg_right hm hpos.le
      _ ≤ v := hlow
  have hshifted : StandsFor (ExtendedMantissa.ofMantissaAndAccuracy m a >>> k).mantissa
      (ExtendedMantissa.ofMantissaAndAccuracy m a >>> k).accuracy (v / 2 ^ (e + k)) := by
    rw [two_zpow_add, mul_comm, ← div_div]
    exact stands.ofMantissaAndAccuracy.shiftRight k
  obtain ⟨r, hr⟩ : ∃ r, (ExtendedMantissa.ofMantissaAndAccuracy m a >>> k).roundedMantissa = r := ⟨_, rfl⟩
  have hrounded : roundWithAccuracy .binary64 s m e a =
      if h : (shiftToTargetExponent .binary64 r (e + k) .exact).1.mantissa = 0 then .zero s
      else .finite s (shiftToTargetExponent .binary64 r (e + k) .exact).1.mantissa
        (shiftToTargetExponent .binary64 r (e + k) .exact).2 (Nat.pos_of_ne_zero h) := by
    subst hr
    unfold roundWithAccuracy
    rw [hfirst]
  have hleast : -1074 ≤ e + k := by omega
  have hr53 : r ≤ 2 ^ 53 := hr ▸ hshifted.round_le hwidth
  have hr52 : e + k = -1074 ∨ 2 ^ 52 ≤ r := hnormal.imp_right fun h => hr ▸ hshifted.le_round h
  obtain ⟨hw, hl, hn, hsame⟩ := shiftToTargetExponent_rounded hr53 hleast hr52 rfl rfl
  have hto {n : ℕ} (hmagnitude : (n : ℤ) = min ((e + k + 1074) * 2 ^ 52 + r) (2047 * 2 ^ 52)) : RoundsTo v n :=
    ⟨hleast, hwidth, hnormal, hshifted, by rw [hmagnitude, ← hr]; rfl⟩
  rw [hrounded]
  by_cases hzero : (shiftToTargetExponent .binary64 r (e + k) .exact).1.mantissa = 0
  · rw [dif_pos hzero]
    obtain ⟨hsign, hmagnitude⟩ := sign_magnitude_pack_zero s
    refine ⟨hsign, hto ?_⟩
    rw [hmagnitude]
    omega
  · rw [dif_neg hzero]
    obtain ⟨hsign, hmagnitude⟩ := sign_magnitude_pack_finite (Nat.pos_of_ne_zero hzero) hw hl hn
    exact ⟨hsign, hto (by rw [hmagnitude, hsame])⟩

/-- What the fraction of two natural numbers stands for. -/
theorem standsFor_fraction (m : ℕ) {d : ℕ} (pos : 0 < d) :
    StandsFor (m / d) (accuracyOfFraction (m % d) d) (m / d) := by
  have hd : (0 : ℚ) < d := by exact_mod_cast pos
  have hsplit : (m : ℚ) / d = (m / d : ℕ) + (m % d : ℕ) / (d : ℚ) := by
    have hm : (m : ℚ) = d * (m / d : ℕ) + (m % d : ℕ) := by exact_mod_cast (Nat.div_add_mod m d).symm
    rw [hm]
    field_simp
  have hrest : ((m % d : ℕ) : ℚ) / d < 1 := by
    rw [div_lt_one hd]
    exact_mod_cast Nat.mod_lt m pos
  rw [accuracyOfFraction, hsplit]
  split
  · next hnone => rw [hnone, StandsFor]; simp
  · next hsome =>
    have hpos : (0 : ℚ) < (m % d : ℕ) / (d : ℚ) :=
      div_pos (by exact_mod_cast Nat.pos_of_ne_zero hsome) hd
    have hhalf : ((m % d : ℕ) : ℚ) / d - 1 / 2 = ((2 * (m % d) : ℕ) - d) / (2 * d) := by
      push_cast
      field_simp
    obtain hlt | heq | hgt := Nat.lt_trichotomy (2 * (m % d)) d
    · have hneg : ((2 * (m % d) : ℕ) - (d : ℚ)) / (2 * d) < 0 :=
        div_neg_of_neg_of_pos (sub_neg.mpr (by exact_mod_cast hlt)) (by linarith)
      rw [Nat.compare_eq_lt.mpr hlt, StandsFor]
      constructor <;> linarith
    · have hzero : ((2 * (m % d) : ℕ) - (d : ℚ)) / (2 * d) = 0 := by
        rw [heq, sub_self, zero_div]
      rw [Nat.compare_eq_eq.mpr heq, StandsFor]
      linarith
    · have hpos : 0 < ((2 * (m % d) : ℕ) - (d : ℚ)) / (2 * d) :=
        div_pos (sub_pos.mpr (by exact_mod_cast hgt)) (by linarith)
      rw [Nat.compare_eq_gt.mpr hgt, StandsFor]
      constructor <;> linarith

/-- A quotient of mantissas is cut off at a place that is fine enough. -/
theorem exists_divCore_eq (m₁ m₂ : ℕ) (e₁ e₂ : ℤ) :
    ∃ (e : ℤ) (k : ℕ), e + k = e₁ - e₂ ∧
      e ≤ max ((m₁.log2 + 1 + e₁ : ℤ) - (m₂.log2 + 1 + e₂) - 53) (-1074) ∧
      divCore .binary64 m₁ e₁ m₂ e₂ = (m₁ * 2 ^ k / m₂, e, accuracyOfFraction (m₁ * 2 ^ k % m₂) m₂) := by
  obtain ⟨place, hplace⟩ : ∃ place : ℤ, max ((m₁.log2 + 1 + e₁ : ℤ) - (m₂.log2 + 1 + e₂) - 53) (-1074) = place :=
    ⟨_, rfl⟩
  refine ⟨min (e₁ - e₂) place, (e₁ - e₂ - min (e₁ - e₂) place).toNat, ?_, ?_, ?_⟩
  · omega
  · exact hplace ▸ min_le_right _ _
  · rw [← Nat.shiftLeft_eq, ← hplace]
    rfl

/-- A quotient of mantissas is rounded. -/
theorem roundsTo_divCore (s : Sign) {m₁ m₂ : ℕ} (e₁ e₂ : ℤ) (pos₁ : 0 < m₁) (pos₂ : 0 < m₂) {m : ℕ} {e : ℤ}
    {a : Accuracy} (core : divCore .binary64 m₁ e₁ m₂ e₂ = (m, e, a)) :
    sign (.ofModel (Float.Model.pack (roundWithAccuracy .binary64 s m e a))) = s ∧
      RoundsTo (m₁ * 2 ^ e₁ / (m₂ * 2 ^ e₂))
        (magnitude (.ofModel (Float.Model.pack (roundWithAccuracy .binary64 s m e a)))) := by
  obtain ⟨e', k, hplace, hfine, hcore⟩ := exists_divCore_eq m₁ m₂ e₁ e₂
  obtain ⟨rfl, rfl, rfl⟩ : m₁ * 2 ^ k / m₂ = m ∧ e' = e ∧ accuracyOfFraction (m₁ * 2 ^ k % m₂) m₂ = a := by
    simpa using hcore.symm.trans core
  have hunits : (m₁ * 2 ^ e₁ / (m₂ * 2 ^ e₂) : ℚ) / 2 ^ e' = (m₁ * 2 ^ k : ℕ) / m₂ := by
    have hpow : (2 : ℚ) ^ e₁ = 2 ^ k * 2 ^ e' * 2 ^ e₂ := by
      rw [← two_zpow_add, ← zpow_add₀ two_ne_zero]
      congr 1
      omega
    have h₂ : (m₂ : ℚ) ≠ 0 := by exact_mod_cast pos₂.ne'
    rw [hpow]
    push_cast
    field_simp
  refine roundsTo_roundWithAccuracy s ?_ ?_
  · rw [hunits]
    exact standsFor_fraction _ pos₂
  · obtain hsmall | hlarge := le_max_iff.mp hfine
    · -- the quotient has at least 53 bits
      have hscaled : 2 ^ 52 * m₂ ≤ m₁ * 2 ^ k :=
        calc 2 ^ 52 * m₂
          _ ≤ 2 ^ 52 * 2 ^ (m₂.log2 + 1) := Nat.mul_le_mul_left _ Nat.lt_log2_self.le
          _ = 2 ^ (52 + (m₂.log2 + 1)) := (Nat.pow_add ..).symm
          _ ≤ 2 ^ (m₁.log2 + k) := Nat.pow_le_pow_right two_pos (by omega)
          _ = 2 ^ m₁.log2 * 2 ^ k := Nat.pow_add ..
          _ ≤ m₁ * 2 ^ k := Nat.mul_le_mul_right _ (Nat.log2_self_le pos₁.ne')
      have hquotient : 2 ^ 52 ≤ m₁ * 2 ^ k / m₂ := (Nat.le_div_iff_mul_le pos₂).mpr hscaled
      have hbits : 52 ≤ (m₁ * 2 ^ k / m₂).log2 := (Nat.le_log2 (by omega)).mpr hquotient
      omega
    · exact le_max_of_le_right hlarge

/-- A product of mantissas is exact, and rounded. -/
theorem roundsTo_product (s : Sign) {m₁ m₂ : ℕ} {e₁ e₂ : ℤ} (pos₁ : 0 < m₁) (pos₂ : 0 < m₂)
    (normal₁ : e₁ = -1074 ∨ 2 ^ 52 ≤ m₁) (normal₂ : e₂ = -1074 ∨ 2 ^ 52 ≤ m₂) :
    sign (.ofModel (Float.Model.pack (roundWithAccuracy .binary64 s (m₁ * m₂) (e₁ + e₂) .exact))) = s ∧
      RoundsTo (m₁ * 2 ^ e₁ * (m₂ * 2 ^ e₂))
        (magnitude (.ofModel (Float.Model.pack (roundWithAccuracy .binary64 s (m₁ * m₂) (e₁ + e₂) .exact)))) := by
  refine roundsTo_roundWithAccuracy s ?_ ?_
  · rw [zpow_add₀ two_ne_zero, StandsFor]
    push_cast
    field_simp
  · have hbits (h : 2 ^ 52 ≤ m₁ ∨ 2 ^ 52 ≤ m₂) : 52 ≤ (m₁ * m₂).log2 := by
      refine (Nat.le_log2 (Nat.mul_pos pos₁ pos₂).ne').mpr ?_
      obtain h | h := h
      · exact h.trans (Nat.le_mul_of_pos_right m₁ pos₂)
      · exact h.trans (Nat.le_mul_of_pos_left m₂ pos₁)
    obtain rfl | h₁ := normal₁
    · obtain rfl | h₂ := normal₂
      · exact le_max_of_le_right (by norm_num)
      · have := hbits (.inr h₂)
        omega
    · have := hbits (.inl h₁)
      omega

/-- A mantissa in any place is rounded. -/
theorem roundsTo_round (s : Sign) {m : ℕ} (pos : 0 < m) (e : ℤ) :
    sign (.ofModel (Float.Model.pack (UnpackedFloat.round .binary64 s m e))) = s ∧
      RoundsTo (m * 2 ^ e) (magnitude (.ofModel (Float.Model.pack (UnpackedFloat.round .binary64 s m e)))) := by
  obtain ⟨k, hk⟩ : ∃ k, (e - max (m.log2 + 1 + e - 53) (-1074) : ℤ).toNat = k := ⟨_, rfl⟩
  have hround : UnpackedFloat.round .binary64 s m e = roundWithAccuracy .binary64 s (m * 2 ^ k) (e - k) .exact := by
    rw [← hk, ← Nat.shiftLeft_eq]
    rfl
  have hlog : (m * 2 ^ k).log2 = m.log2 + k := by
    refine (Nat.log2_eq_iff (by positivity)).mpr ⟨?_, ?_⟩
    · rw [Nat.pow_add]
      exact Nat.mul_le_mul_right _ (Nat.log2_self_le pos.ne')
    · rw [Nat.add_right_comm, Nat.pow_add]
      exact Nat.mul_lt_mul_of_pos_right Nat.lt_log2_self (Nat.two_pow_pos k)
  rw [hround]
  refine roundsTo_roundWithAccuracy s ?_ (by omega)
  have hpow : (2 : ℚ) ^ e = 2 ^ k * 2 ^ (e - k) := by rw [← two_zpow_add, sub_add_cancel]
  rw [StandsFor, hpow]
  push_cast
  field_simp

end AreaOfInterest.Double
