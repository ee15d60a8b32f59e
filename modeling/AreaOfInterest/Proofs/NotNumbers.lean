import AreaOfInterest.Proofs.Placements

/-!
# Doubles that are not numbers

Arithmetic on something that is not a number never comes to a number. On numbers it does, but for a few operands: the
difference of two infinities and the quotients of two infinities or two zeros.
-/

namespace AreaOfInterest.Double

open Float.Model

/-- A double is not a number when that is what it is unpacked to. -/
theorem isNaN_iff {x : Float} : x.isNaN ↔ x.toModel.unpack = .notANumber := by
  have h : x.isNaN = x.toModel.unpack.isNaN := rfl
  rw [h]
  generalize x.toModel.unpack = u
  cases u with
  | notANumber => exact ⟨fun _ => rfl, fun _ => rfl⟩
  | infinity | zero | finite => exact ⟨nofun, nofun⟩

/-- What is finite is a number. -/
theorem isNaN_of_isFinite {x : Float} (h : x.isFinite) : x.isNaN = false := by
  have hfinite : x.toModel.unpack.isFinite := h
  refine Bool.eq_false_iff.mpr fun hn => ?_
  rw [isNaN_iff.mp hn] at hfinite
  cases hfinite

/-- A number equals itself. -/
theorem beq_self_iff {x : Float} : x == x ↔ x.isNaN = false := by
  refine ⟨isNaN_of_beq, fun h => ?_⟩
  have hnumber : x.toModel.unpack ≠ .notANumber := fun hn => Bool.eq_false_iff.mp h (isNaN_iff.mpr hn)
  rw [beq_iff, order?]
  generalize x.toModel.unpack = u at hnumber
  cases u with
  | notANumber => exact absurd rfl hnumber
  | infinity s => cases s <;> rfl
  | zero s => rfl
  | finite s m e hm =>
    have hzero : ((UnpackedFloat.finite s m e hm).compare (.zero .positive)).isSome := by cases s <;> rfl
    exact compare_self hzero

/-- A double is at most another one when it is below it or equal to it. -/
theorem le_iff {x y : Float} : x ≤ y ↔ x < y ∨ x == y := by
  have h : x ≤ y ↔ (decide ((order? x y).any (·.isLE) = true)) = true := Iff.rfl
  rw [h, decide_eq_true_eq, lt_iff, beq_iff]
  cases order? x y with
  | none => simp
  | some o => cases o <;> simp [Ordering.isLE]

/-- Of two numbers one is at most the other, or above it. -/
theorem le_iff_not_lt {x y : Float} (hx : x.isNaN = false) (hy : y.isNaN = false) : x ≤ y ↔ ¬y < x := by
  rw [le_iff]
  constructor
  · rintro (h | h) h'
    · exact NumericOrder.lt_asymm h h'
    · exact NumericOrder.not_beq_of_lt h' (by rwa [NumericOrder.beq_comm])
  · intro h
    obtain hlt | heq | hgt := NumericOrder.lt_or_beq_or_lt (beq_self_iff.mpr hx) (beq_self_iff.mpr hy)
    · exact .inl hlt
    · exact .inr heq
    · exact absurd hgt h

/-- Components are those of a number unless the exponent is the last one and the mantissa is not empty. -/
theorem unpack_packComponents_ne {spec : Format} (s : UnpackedFloat.Sign) {e : BitVec spec.exponentBits}
    {m : BitVec spec.mantissaBitsWithoutImplicit} (h : e = -1#_ → m = 0#_) :
    UnpackedFloat.unpack spec (UnpackedFloat.packComponents spec s e m) ≠ .notANumber := by
  unfold UnpackedFloat.unpack
  dsimp only
  rw [UnpackedFloat.unpackExponent_packComponents]
  by_cases last : e = -1#_
  · rw [if_pos last, UnpackedFloat.unpackMantissa_packComponents, if_pos (h last)]
    nofun
  rw [if_neg last]
  by_cases first : e = 0#_
  · rw [if_pos first]
    rw [Ne, dite_eq_iff]
    rintro (⟨_, h⟩ | ⟨_, h⟩) <;> cases h
  · rw [if_neg first]
    nofun

/-- A number is packed as one. -/
theorem unpack_pack_ne {spec : Format} {u : UnpackedFloat} (h : u ≠ .notANumber) :
    UnpackedFloat.unpack spec (u.pack spec) ≠ .notANumber := by
  have hbits := spec.he
  cases u with
  | notANumber => exact absurd rfl h
  | infinity s => exact unpack_packComponents_ne s fun _ => rfl
  | zero s => exact unpack_packComponents_ne s fun _ => rfl
  | finite s m e hm =>
    unfold UnpackedFloat.pack
    dsimp only
    split
    · exact unpack_packComponents_ne s fun _ => rfl
    · next hlt =>
      split
      · refine unpack_packComponents_ne s fun hlast => absurd (congrArg BitVec.toNat hlast) ?_
        rw [BitVec.toNat_ofNat, Nat.mod_eq_of_lt (by omega), BitVec.neg_one_eq_allOnes, BitVec.toNat_allOnes]
        omega
      · refine unpack_packComponents_ne s fun hlast => absurd (congrArg BitVec.toNat hlast) ?_
        have hsome := Nat.one_lt_two_pow (Nat.ne_of_gt hbits)
        rw [BitVec.toNat_ofNat, BitVec.neg_one_eq_allOnes, BitVec.toNat_allOnes, Nat.zero_mod]
        omega

/-- What is packed is a number exactly when it was one. -/
theorem isNaN_pack {u : UnpackedFloat} : (Float.ofModel (Float.Model.pack u)).isNaN ↔ u = .notANumber := by
  constructor
  · rw [isNaN_iff]
    exact fun h => Classical.not_not.mp fun hne => unpack_pack_ne hne h
  · rintro rfl
    decide +kernel

/-- What is rounded is a number. -/
theorem roundWithAccuracy_ne (spec : Format) (s : UnpackedFloat.Sign) (m : Nat) (e : Int)
    (a : UnpackedFloat.Accuracy) : UnpackedFloat.roundWithAccuracy spec s m e a ≠ .notANumber := by
  unfold UnpackedFloat.roundWithAccuracy
  dsimp only
  rw [Ne, dite_eq_iff]
  rintro (⟨_, h⟩ | ⟨_, h⟩) <;> cases h

/-- What is normalized is a number. -/
theorem normalize_ne (spec : Format) (m e : Int) (s : UnpackedFloat.Sign) :
    UnpackedFloat.normalize spec m e s ≠ .notANumber := by
  unfold UnpackedFloat.normalize
  split
  · exact roundWithAccuracy_ne _ _ _ _ _
  · simp
  · exact roundWithAccuracy_ne _ _ _ _ _

section Operands

variable {x y : Float}

/-- An operation that keeps what is not a number keeps it on doubles. -/
theorem isNaN_of_operand {op : UnpackedFloat → UnpackedFloat → UnpackedFloat}
    (left : ∀ v, op .notANumber v = .notANumber) (right : ∀ u, op u .notANumber = .notANumber)
    (h : x.isNaN ∨ y.isNaN) :
    (Float.ofModel (Float.Model.pack (op x.toModel.unpack y.toModel.unpack))).isNaN := by
  rw [isNaN_iff, isNaN_iff] at h
  refine isNaN_pack.mpr ?_
  obtain h | h := h
  · rw [h, left]
  · rw [h, right]

/-- A sum is not a number when one of its terms is none. -/
theorem isNaN_add (h : x.isNaN ∨ y.isNaN) : (x + y).isNaN :=
  isNaN_of_operand (fun _ => rfl) (fun u => by cases u <;> rfl) h

/-- A difference is not a number when one of its terms is none. -/
theorem isNaN_sub (h : x.isNaN ∨ y.isNaN) : (x - y).isNaN :=
  isNaN_of_operand (fun _ => rfl) (fun u => by cases u <;> rfl) h

/-- A product is not a number when one of its factors is none. -/
theorem isNaN_mul (h : x.isNaN ∨ y.isNaN) : (x * y).isNaN :=
  isNaN_of_operand (fun _ => rfl) (fun u => by cases u <;> rfl) h

/-- A quotient is not a number when one of its terms is none. -/
theorem isNaN_div (h : x.isNaN ∨ y.isNaN) : (x / y).isNaN :=
  isNaN_of_operand (fun _ => rfl) (fun u => by cases u <;> rfl) h

/-- What is not a number has no size. -/
theorem isNaN_abs (h : x.isNaN) : x.abs.isNaN := by
  rw [isNaN_iff] at h
  refine isNaN_pack.mpr ?_
  rw [h]
  rfl

/-- A number and a finite one have a sum. -/
theorem isNaN_add_finite (hx : x.isNaN = false) (hy : y.isFinite) : (x + y).isNaN = false := by
  refine Bool.eq_false_iff.mpr fun h => ?_
  have hsum : UnpackedFloat.add .binary64 x.toModel.unpack y.toModel.unpack = .notANumber := isNaN_pack.mp h
  have hx' : x.toModel.unpack ≠ .notANumber := fun hn => Bool.eq_false_iff.mp hx (isNaN_iff.mpr hn)
  have hy' : y.toModel.unpack.isFinite := hy
  generalize x.toModel.unpack = u at hsum hx'
  generalize y.toModel.unpack = v at hsum hy'
  cases u with
  | notANumber => exact hx' rfl
  | infinity s =>
    cases v with
    | notANumber | infinity => cases hy'
    | zero | finite => cases hsum
  | zero s =>
    cases v with
    | notANumber | infinity => cases hy'
    | zero t => cases s <;> cases t <;> cases hsum
    | finite => cases hsum
  | finite =>
    cases v with
    | notANumber | infinity => cases hy'
    | zero => cases hsum
    | finite => exact normalize_ne _ _ _ _ hsum

/-- A running sum is not a number once it, or one of the terms to come, is none. -/
theorem isNaN_foldl_add {β : Type} {f : β → Float} {terms : List β} {total : Float}
    (h : total.isNaN ∨ ∃ t ∈ terms, (f t).isNaN) : (terms.foldl (fun sum t => sum + f t) total).isNaN := by
  induction terms generalizing total with
  | nil => simpa using h
  | cons t rest ih =>
    refine ih ?_
    simp only [List.mem_cons, exists_eq_or_imp] at h
    obtain htotal | ht | hrest := h
    · exact .inl (isNaN_add (.inl htotal))
    · exact .inl (isNaN_add (.inr ht))
    · exact .inr hrest

/-- A running sum of finite terms is a number. -/
theorem isNaN_foldl_add_finite {β : Type} {f : β → Float} {terms : List β} {total : Float}
    (number : total.isNaN = false) (finite : ∀ t ∈ terms, (f t).isFinite) :
    (terms.foldl (fun sum t => sum + f t) total).isNaN = false := by
  induction terms generalizing total with
  | nil => exact number
  | cons t rest ih =>
    obtain ⟨ht, hrest⟩ := List.forall_mem_cons.mp finite
    exact ih (isNaN_add_finite number ht) hrest

end Operands

end AreaOfInterest.Double
