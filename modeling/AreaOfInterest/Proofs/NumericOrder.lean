import AreaOfInterest.Proofs.FlatWorld
import Mathlib.Algebra.Order.Ring.Rat

/-!
# The order of numbers

Comparing and sorting scalars go by two orders. The numeric one knows values that are not numbers, and on doubles does
not tell the two zeros apart. The one used for sorting is total and tells all values apart.

What the two have in common on all scalars in use is stated here, and shown for doubles and for rationals.
-/

namespace AreaOfInterest

/-- The numeric order is one where numbers are concerned, and the order used for sorting is a linear one. A number is
a value that equals itself. -/
class NumericOrder (α : Type) [Scalar α] : Prop where
  beq_comm (x y : α) : (x == y) = (y == x)
  number_of_beq {x y : α} : x == y → x == x
  lt_asymm {x y : α} : x < y → ¬ y < x
  not_beq_of_lt {x y : α} : x < y → ¬ x == y
  lt_or_beq_or_lt {x y : α} : x == x → y == y → x < y ∨ x == y ∨ y < x
  min_eq {x y : α} : x == x → y == y → min x y = if y < x then y else x
  max_eq {x y : α} : x == x → y == y → max x y = if x < y then y else x
  sortsBefore_total (x y : α) : Scalar.sortsBefore x y ∨ Scalar.sortsBefore y x
  sortsBefore_trans {x y z : α} : Scalar.sortsBefore x y → Scalar.sortsBefore y z → Scalar.sortsBefore x z
  sortsBefore_antisymm {x y : α} : Scalar.sortsBefore x y → Scalar.sortsBefore y x → x = y

namespace NumericOrder

variable {α : Type} [Scalar α] [NumericOrder α]

/-- What a value is equal to is a number as well. -/
theorem number_of_beq_right {x y : α} (h : x == y) : y == y :=
  number_of_beq (by rwa [beq_comm] : y == x)

/-- A value is not below itself. -/
theorem lt_irrefl (x : α) : ¬x < x := fun h => lt_asymm h h

/-- A value may be sorted before itself. -/
theorem sortsBefore_self (x : α) : Scalar.sortsBefore x x := by
  simpa using sortsBefore_total x x

end NumericOrder

instance : NumericOrder Rat where
  beq_comm x y := BEq.comm
  number_of_beq _ := BEq.rfl
  lt_asymm := lt_asymm
  not_beq_of_lt h := by simpa using Rat.ne_of_lt h
  lt_or_beq_or_lt {x y} _ _ := by simpa using lt_trichotomy x y
  min_eq _ _ := rfl
  max_eq _ _ := rfl
  sortsBefore_total x y := by simpa [Scalar.sortsBefore] using le_total x y
  sortsBefore_trans h h' := by simp [Scalar.sortsBefore] at *; exact Rat.le_trans h h'
  sortsBefore_antisymm h h' := by simp [Scalar.sortsBefore] at *; exact Rat.le_antisymm h h'

namespace Double

open Float.Model

/-- Comparing two doubles the other way round has the opposite outcome. -/
theorem compare_swap (u v : UnpackedFloat) : v.compare u = (u.compare v).map Ordering.swap := by
  cases u with
  | notANumber => cases v <;> rfl
  | infinity s => cases s <;> rcases v with ⟨⟨⟩⟩ | _ | _ | _ <;> rfl
  | zero s => rcases v with ⟨⟨⟩⟩ | _ | _ | ⟨⟨⟩, _, _, _⟩ <;> rfl
  | finite s m e hm =>
    cases v with
    | notANumber => cases s <;> rfl
    | infinity s' => cases s <;> cases s' <;> rfl
    | zero s' => cases s <;> cases s' <;> rfl
    | finite s' m' e' hm' =>
      have hswap : (compare e' e).then (compare m' m) = ((compare e e').then (compare m m')).swap := by
        rw [Ordering.swap_then, Int.compare_swap, Nat.compare_swap]
      cases s <;> cases s'
      case positive.positive => exact congrArg some hswap
      case negative.negative => exact congrArg (fun o => some o.swap) hswap
      all_goals rfl

/-- A double that can be compared with another one can be compared with itself. -/
theorem compare_self {u v : UnpackedFloat} (h : (u.compare v).isSome) : u.compare u = some .eq := by
  cases u with
  | notANumber => cases h
  | infinity s => cases s <;> rfl
  | zero s => rfl
  | finite s m e hm =>
    have hself : (compare e e).then (compare m m) = .eq := by simp
    cases s with
    | positive => exact congrArg some hself
    | negative => exact congrArg (fun o => some o.swap) hself

/-- Two doubles that can be compared with themselves can be compared with each other. -/
theorem isSome_compare {u v : UnpackedFloat} (hu : u.compare u = some .eq) (hv : v.compare v = some .eq) :
    (u.compare v).isSome := by
  cases u with
  | notANumber => cases hu
  | infinity s => cases s <;> rcases v with ⟨⟨⟩⟩ | _ | _ | _ <;> first | rfl | cases hv
  | zero s => rcases v with ⟨⟨⟩⟩ | _ | _ | ⟨⟨⟩, _, _, _⟩ <;> first | rfl | cases hv
  | finite s m e hm => cases s <;> rcases v with ⟨⟨⟩⟩ | _ | _ | ⟨⟨⟩, _, _, _⟩ <;> first | rfl | cases hv

/-- The outcome of comparing two doubles as numbers. -/
def order? (x y : Float) : Option Ordering := x.toModel.unpack.compare y.toModel.unpack

/-- The other way round the outcome is the opposite. -/
theorem order?_swap (x y : Float) : order? y x = (order? x y).map Ordering.swap := compare_swap _ _

/-- A double is below another one when that is the outcome. -/
theorem lt_iff {x y : Float} : x < y ↔ order? x y = some .lt := by
  have h : x < y ↔ (decide ((x.toModel.unpack.compare y.toModel.unpack == some .lt) = true)) = true := Iff.rfl
  rw [h]
  simp [order?]

/-- Two doubles are equal as numbers when that is the outcome. -/
theorem beq_iff {x y : Float} : x == y ↔ order? x y = some .eq := by
  have h : (x == y) = (x.toModel.unpack.compare y.toModel.unpack == some .eq) := rfl
  rw [h]
  simp [order?]

/-- What equals something as a number is one. -/
theorem isNaN_of_beq {x y : Float} (h : x == y) : x.isNaN = false := by
  rw [beq_iff, order?] at h
  change x.toModel.unpack.isNaN = false
  generalize x.toModel.unpack = u at h
  cases u with
  | notANumber => cases h
  | infinity | zero | finite => rfl

/-- Doubles of the same rank are the same. -/
theorem rank_inj {x y : Float} (h : rank x = rank y) : x = y := by
  have hbits : x.toBits = y.toBits := by
    rw [← UInt64.toNat_inj]
    simp only [rank] at h
    split at h <;> split at h <;> omega
  cases x with
  | ofModel x =>
    cases y with
    | ofModel y =>
      cases x
      cases y
      cases hbits
      rfl

end Double

instance : NumericOrder Float where
  beq_comm x y := by
    rw [Bool.eq_iff_iff, Double.beq_iff, Double.beq_iff, Double.order?_swap x y]
    cases Double.order? x y with
    | none => simp
    | some o => cases o <;> simp
  number_of_beq h := by
    rw [Double.beq_iff] at h ⊢
    exact Double.compare_self (Option.isSome_of_eq_some h)
  lt_asymm {x y} h h' := by
    rw [Double.lt_iff] at h h'
    rw [Double.order?_swap x y, h] at h'
    cases h'
  not_beq_of_lt h h' := by
    rw [Double.lt_iff] at h
    rw [Double.beq_iff, h] at h'
    cases h'
  lt_or_beq_or_lt {x y} hx hy := by
    rw [Double.beq_iff] at hx hy
    obtain ⟨o, ho⟩ := Option.isSome_iff_exists.mp (Double.isSome_compare hx hy)
    rw [Double.lt_iff, Double.beq_iff, Double.lt_iff, Double.order?_swap x y, Double.order?, ho]
    cases o <;> simp
  min_eq {x y} hx _ := by
    change Double.lesser x y = _
    rw [Double.lesser, Double.isNaN_of_beq hx]
    rfl
  max_eq {x y} hx _ := by
    change Double.greater x y = _
    rw [Double.greater, Double.isNaN_of_beq hx]
    rfl
  sortsBefore_total x y := by simpa [Scalar.sortsBefore] using le_total (Double.rank x) (Double.rank y)
  sortsBefore_trans h h' := by
    simp only [Scalar.sortsBefore, decide_eq_true_eq] at *
    exact le_trans h h'
  sortsBefore_antisymm h h' := by
    simp only [Scalar.sortsBefore, decide_eq_true_eq] at *
    exact Double.rank_inj (le_antisymm h h')

end AreaOfInterest
