import AreaOfInterest.Proofs.Platforms

/-!
# Equal numbers

Two values that are equal as numbers need not be the same one: there are two zeros among the doubles. Arithmetic takes
them to values that are equal again, or to the same value that is no number. The order does not tell them apart.

Whether rounding to whole numbers does is up to the platform. It does not where it goes to the nearest one.
-/

namespace AreaOfInterest

/-- Values are the same one, or equal as numbers. -/
def Alike {α : Type} [Scalar α] (x y : α) : Prop := x = y ∨ x == y

/-- Scalars whose arithmetic and order do not tell values apart that are alike. -/
class NumericCongr (α : Type) [Scalar α] : Prop where
  add_congr {x y : α} (z : α) : Alike x y → Alike (x + z) (y + z)
  sub_congr {x y : α} (z : α) : Alike x y → Alike (x - z) (y - z)
  sub_congr_right {x y : α} (z : α) : Alike x y → Alike (z - x) (z - y)
  div_congr {x y : α} (z : α) : Alike x y → Alike (x / z) (y / z)
  abs_congr {x y : α} : Alike x y → Alike (Scalar.abs x) (Scalar.abs y)
  le_congr {x y : α} (z : α) : Alike x y → (x ≤ z ↔ y ≤ z)

/-- Scalars whose rounding to whole numbers does not tell them apart either. -/
class RoundingCongr (α : Type) [Scalar α] : Prop extends NumericCongr α where
  round_congr {x y : α} : Alike x y → Alike (Scalar.round x) (Scalar.round y)

section Lawful

variable {α : Type} [Scalar α] [LawfulBEq α]

/-- Where equal numbers are the same, so are all values that are alike. -/
theorem Alike.eq {x y : α} (h : Alike x y) : x = y := h.elim id eq_of_beq

instance : RoundingCongr α where
  add_congr _ h := .inl (by rw [h.eq])
  sub_congr _ h := .inl (by rw [h.eq])
  sub_congr_right _ h := .inl (by rw [h.eq])
  div_congr _ h := .inl (by rw [h.eq])
  abs_congr h := .inl (by rw [h.eq])
  le_congr _ h := by rw [h.eq]
  round_congr h := .inl (by rw [h.eq])

end Lawful

namespace Double

open Float.Model UnpackedFloat

/-- An operation on unpacked doubles takes the two zeros to the same value, or to zeros. -/
def KeepsZeros (f : UnpackedFloat → UnpackedFloat) : Prop :=
  f (.zero .positive) = f (.zero .negative) ∨
    ∃ s t, f (.zero .positive) = .zero s ∧ f (.zero .negative) = .zero t

/-- Of doubles that are alike it makes no difference which one comes first. -/
theorem alike_comm {x y : Float} (h : Alike x y) : Alike y x := by
  rwa [Alike, eq_comm, NumericOrder.beq_comm]

/-- Such an operation takes doubles that are alike to doubles that are. -/
theorem KeepsZeros.alike {f : UnpackedFloat → UnpackedFloat} (hf : KeepsZeros f) {x y : Float} (h : Alike x y) :
    Alike (Float.ofModel (Float.Model.pack (f x.toModel.unpack)))
      (Float.ofModel (Float.Model.pack (f y.toModel.unpack))) := by
  have hzeros : Alike (Float.ofModel (Float.Model.pack (f (.zero .positive))))
      (Float.ofModel (Float.Model.pack (f (.zero .negative)))) := by
    obtain hsame | ⟨s, t, hs, ht⟩ := hf
    · rw [hsame]
      exact .inl rfl
    · rw [hs, ht]
      right
      cases s <;> cases t <;> decide +kernel
  obtain rfl | hequal := h
  · exact .inl rfl
  obtain rfl | ⟨rfl, rfl⟩ | ⟨rfl, rfl⟩ := eq_or_zeros_of_beq hequal
  · exact .inl rfl
  · exact hzeros
  · exact alike_comm hzeros

/-- Added to something, the zeros are kept. -/
theorem keepsZeros_add (v : UnpackedFloat) : KeepsZeros (UnpackedFloat.add .binary64 · v) := by
  cases v with
  | notANumber | finite => exact .inl rfl
  | infinity t => cases t <;> exact .inl rfl
  | zero t => cases t <;> exact .inr ⟨_, _, rfl, rfl⟩

/-- With something taken away from them, they are. -/
theorem keepsZeros_sub (v : UnpackedFloat) : KeepsZeros (UnpackedFloat.sub .binary64 · v) := by
  cases v with
  | notANumber | finite => exact .inl rfl
  | infinity t => cases t <;> exact .inl rfl
  | zero t => cases t <;> exact .inr ⟨_, _, rfl, rfl⟩

/-- Taken away from something, they are. -/
theorem keepsZeros_sub_right (v : UnpackedFloat) : KeepsZeros (UnpackedFloat.sub .binary64 v) := by
  cases v with
  | notANumber | finite => exact .inl rfl
  | infinity t => cases t <;> exact .inl rfl
  | zero t => cases t <;> exact .inr ⟨_, _, rfl, rfl⟩

/-- Divided by something, they are. -/
theorem keepsZeros_div (v : UnpackedFloat) : KeepsZeros (UnpackedFloat.div .binary64 · v) := by
  cases v with
  | notANumber => exact .inl rfl
  | infinity t | zero t => cases t <;> first | exact .inl rfl | exact .inr ⟨_, _, rfl, rfl⟩
  | finite s => cases s <;> exact .inr ⟨_, _, rfl, rfl⟩

/-- Doubles that are alike are at most the same values. -/
theorem le_of_alike {x y z : Float} (h : Alike x y) (hle : x ≤ z) : y ≤ z := by
  obtain rfl | hequal := h
  · exact hle
  · rw [NumericOrder.beq_comm] at hequal
    exact trans_le (le_iff.mpr (.inr hequal)) hle

end Double

instance : NumericCongr Float where
  add_congr z := (Double.keepsZeros_add z.toModel.unpack).alike
  sub_congr z := (Double.keepsZeros_sub z.toModel.unpack).alike
  sub_congr_right z := (Double.keepsZeros_sub_right z.toModel.unpack).alike
  div_congr z := (Double.keepsZeros_div z.toModel.unpack).alike
  abs_congr h := by
    obtain rfl | hequal := h
    · exact .inl rfl
    obtain rfl | ⟨rfl, rfl⟩ | ⟨rfl, rfl⟩ := Double.eq_or_zeros_of_beq hequal
    · exact .inl rfl
    · exact .inl rfl
    · exact .inl rfl
  le_congr _ h := ⟨Double.le_of_alike h, Double.le_of_alike (Double.alike_comm h)⟩

namespace Platform

instance (p : Platform) : NumericCongr p.Number where
  add_congr := NumericCongr.add_congr (α := Float)
  sub_congr := NumericCongr.sub_congr (α := Float)
  sub_congr_right := NumericCongr.sub_congr_right (α := Float)
  div_congr := NumericCongr.div_congr (α := Float)
  abs_congr := NumericCongr.abs_congr (α := Float)
  le_congr := NumericCongr.le_congr (α := Float)

/-- Where rounding goes to the nearest whole number, it takes equal numbers to equal ones. -/
theorem RoundsToWhole.roundingCongr {p : Platform} (hp : p.RoundsToWhole) : RoundingCongr p.Number where
  round_congr {x y} h := by
    obtain rfl | hequal := h
    · exact .inl rfl
    · have hle : p.round x ≤ p.round y := hp.isMonotone_round.mono (Double.le_iff.mpr (.inr hequal))
      rw [NumericOrder.beq_comm] at hequal
      have hge : p.round y ≤ p.round x := hp.isMonotone_round.mono (Double.le_iff.mpr (.inr hequal))
      exact .inr (Double.beq_of_le_of_le hle hge)

end Platform

end AreaOfInterest
