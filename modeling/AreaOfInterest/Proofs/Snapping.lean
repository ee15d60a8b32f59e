import AreaOfInterest.Proofs.Unwrapping
import AreaOfInterest.Map.Viewport

/-!
# Snapping back

A view whose centre has left the valid extent is brought back by whole worlds. Mostly one number of worlds does that,
and it is the one that is taken. Whole worlds beyond the right edge there are two, since either edge will do. Then the
left one is taken, although the right one is a world nearer.

Scalars are exact here.
-/

namespace AreaOfInterest

open Exact

variable {α : Type} [Scalar α] [Exact α]

namespace Wrap

/-- Shifted by so many worlds, an easting is inside, the two edges included. -/
def BringsInside (projection : Extent α) (x : α) (k : ℤ) : Prop :=
  real x + k * real projection.width ∈ Set.Icc (real projection.minX) (real projection.maxX)

/-- Shifting by fewer worlds, whichever way, does not bring an easting inside. -/
def IsLeastShift (projection : Extent α) (x : α) (k : ℤ) : Prop :=
  ∀ j : ℤ, BringsInside projection x j → |k| ≤ |j|

/-- An easting is some whole worlds beyond the right edge. -/
def WholeWorldsEast (projection : Extent α) (x : α) : Prop :=
  ∃ n : ℕ, 0 < n ∧ real x = real projection.maxX + n * real projection.width

variable {projection : Extent α} {x : α} {k : ℤ}

/-- When one number of worlds leads before the right edge, the only other one that leads inside is the next, and only
from the left edge. -/
theorem bringsInside_iff (ordered : projection.minX < projection.maxX)
    (lands : real x + k * real projection.width ∈ Set.Ico (real projection.minX) (real projection.maxX)) (j : ℤ) :
    BringsInside projection x j ↔ j = k ∨ j = k + 1 ∧ real x + k * real projection.width = real projection.minX := by
  have hwide := real_width_pos ordered
  have hedges := Extent.real_width projection
  obtain ⟨west, east⟩ := lands
  constructor
  · rintro ⟨hwest, heast⟩
    have hlower : k < j + 1 := by
      rw [← worlds_lt_iff ordered]
      push_cast
      linarith
    have hupper : j < k + 2 := by
      rw [← worlds_lt_iff ordered]
      push_cast
      linarith
    obtain rfl | rfl : j = k ∨ j = k + 1 := by omega
    · exact .inl rfl
    · push_cast at heast
      exact .inr ⟨rfl, by linarith⟩
  · rintro (rfl | ⟨rfl, hedge⟩)
    · exact ⟨west, east.le⟩
    · have hshift : real x + (k + 1 : ℤ) * real projection.width = real projection.maxX := by
        push_cast
        linarith
      rw [BringsInside, hshift]
      exact ⟨(west.trans_lt east).le, le_rfl⟩

/-- An easting is shifted to the east when it is west of the projection, and to the west otherwise. -/
theorem shift_neg_iff (ordered : projection.minX < projection.maxX) (outside : isOutside x projection)
    (lands : real x + k * real projection.width ∈ Set.Ico (real projection.minX) (real projection.maxX)) :
    k < 0 ↔ real projection.maxX < real x := by
  obtain ⟨west, east⟩ := lands
  rw [← worlds_lt_iff ordered, Int.cast_zero, zero_mul]
  constructor
  · intro hwestwards
    refine (isOutside_iff.mp outside).resolve_left fun hwest => ?_
    linarith
  · intro heast
    linarith

/-- To the west an easting is shifted to the left edge when it comes from whole worlds beyond the right one. -/
theorem shift_to_minX_iff (ordered : projection.minX < projection.maxX) (outside : isOutside x projection)
    (lands : real x + k * real projection.width ∈ Set.Ico (real projection.minX) (real projection.maxX)) :
    k < 0 ∧ real x + k * real projection.width = real projection.minX ↔ WholeWorldsEast projection x := by
  have hwide := real_width_pos ordered
  have hedges := Extent.real_width projection
  constructor
  · rintro ⟨hneg, hedge⟩
    have heast := (shift_neg_iff ordered outside lands).mp hneg
    obtain ⟨n, hn⟩ : ∃ n : ℕ, (n : ℤ) = -k - 1 := ⟨(-k - 1).toNat, by omega⟩
    have hn' : (n : ℝ) = -k - 1 := by exact_mod_cast hn
    have hx : real x = real projection.maxX + n * real projection.width := by
      rw [hn']
      linarith
    refine ⟨n, Nat.pos_of_ne_zero ?_, hx⟩
    rintro rfl
    simp [hx] at heast
  · rintro ⟨n, hpos, hx⟩
    have hn : (0 : ℝ) < n := by exact_mod_cast hpos
    have heast : real projection.maxX < real x := by
      rw [hx]
      exact lt_add_of_pos_right _ (mul_pos hn hwide)
    -- The right edge is inside, so it is this or the next number of worlds that leads to it.
    have hinside : BringsInside projection x (-n) := by
      have hshift : real x + (-n : ℤ) * real projection.width = real projection.maxX := by
        push_cast
        linarith
      rw [BringsInside, hshift]
      exact ⟨((lt_iff _ _).mp ordered).le, le_rfl⟩
    refine ⟨(shift_neg_iff ordered outside lands).mpr heast, ?_⟩
    obtain hk | ⟨-, hedge⟩ := (bringsInside_iff ordered lands _).mp hinside
    · have heast' := lands.2
      rw [← hk] at heast'
      push_cast at heast'
      linarith
    · exact hedge

/-- The shift before the right edge is the least one, except from whole worlds beyond that edge. -/
theorem isLeastShift_iff (ordered : projection.minX < projection.maxX) (outside : isOutside x projection)
    (lands : real x + k * real projection.width ∈ Set.Ico (real projection.minX) (real projection.maxX)) :
    IsLeastShift projection x k ↔ ¬ WholeWorldsEast projection x := by
  rw [← shift_to_minX_iff ordered outside lands]
  constructor
  · rintro hleast ⟨hneg, hedge⟩
    have hless := hleast (k + 1) ((bringsInside_iff ordered lands _).mpr (.inr ⟨rfl, hedge⟩))
    rw [abs_of_neg hneg, abs_of_nonpos (by omega)] at hless
    omega
  · intro helse j hj
    obtain rfl | ⟨rfl, hedge⟩ := (bringsInside_iff ordered lands _).mp hj
    · exact le_rfl
    · have hnonneg : 0 ≤ k := not_lt.mp fun hneg => helse ⟨hneg, hedge⟩
      rw [abs_of_nonneg hnonneg, abs_of_nonneg (by omega)]
      omega

/-- In any case it is by one world too many at most. -/
theorem shift_le (ordered : projection.minX < projection.maxX)
    (lands : real x + k * real projection.width ∈ Set.Ico (real projection.minX) (real projection.maxX)) {j : ℤ}
    (inside : BringsInside projection x j) : |k| ≤ |j| + 1 := by
  obtain rfl | ⟨rfl, -⟩ := (bringsInside_iff ordered lands _).mp inside
  · omega
  · have h := abs_sub_abs_le_abs_sub k (k + 1)
    rw [sub_add_cancel_left, abs_neg, abs_one] at h
    omega

end Wrap

namespace Viewport

open Wrap

omit [Exact α] in
/-- A centre that is inside stays where it is, so it need not be told apart. -/
theorem snapped_eq (v : Viewport α) : v.snapped = v.setCenter (unwrapCoord v.projection v.center) := by
  unfold snapped
  split
  · rfl
  · next hinside =>
    have hstays : unwrapX v.center.x v.projection = v.center.x := if_neg hinside
    rw [unwrapCoord, hstays]
    rfl

omit [Exact α] in
/-- A view that was brought back is not outside. -/
theorem not_isOutside_snapped [Std.Asymm fun x y : α => x < y] {v : Viewport α}
    (ordered : v.projection.minX < v.projection.maxX) : ¬ v.snapped.isOutside := by
  rw [snapped_eq]
  exact not_isOutside_unwrapXBy ordered (shiftX v.projection) v.center.x

/-- A view whose centre has left the valid extent is moved by whole worlds, so that the centre is back inside. It is
moved by as few worlds as possible, unless the centre is whole worlds beyond the right edge. Even then it is by one
world too many at most. -/
theorem snapped_isLeastShift_iff {v : Viewport α} (ordered : v.projection.minX < v.projection.maxX)
    (outside : v.isOutside) :
    v.snapped = v.setCenter (unwrapCoord v.projection v.center) ∧ ∃ k : ℤ,
      real v.snapped.center.x = real v.center.x + k * real v.projection.width ∧
      v.snapped.center.y = v.center.y ∧
      BringsInside v.projection v.center.x k ∧
      (IsLeastShift v.projection v.center.x k ↔ ¬ WholeWorldsEast v.projection v.center.x) ∧
      ∀ j : ℤ, BringsInside v.projection v.center.x j → |k| ≤ |j| + 1 := by
  obtain ⟨k, hshift, hlands⟩ := exists_real_unwrapX ordered outside
  have hsnapped : v.snapped = v.setCenter (unwrapCoord v.projection v.center) := if_pos outside
  rw [hshift] at hlands
  rw [hsnapped]
  exact ⟨rfl, k, hshift, rfl, ⟨hlands.1, hlands.2.le⟩, isLeastShift_iff ordered outside hlands,
    fun j hj => shift_le ordered hlands hj⟩

/-- A view of the small world, centred on an easting. -/
def ofSmallWorld (x : Rat) : Viewport Rat := { (new 1024 768) with center := ⟨x, 7⟩, projection := smallWorld }

/-- Three half worlds to the west it takes one world to get back, and no fewer will do. -/
theorem snapped_isLeastShift_west :
    smallWorld.minX < smallWorld.maxX ∧ (ofSmallWorld (-30)).isOutside ∧ ∃ k : ℤ, IsLeastShift smallWorld (-30) k := by
  have hordered : smallWorld.minX < smallWorld.maxX := by decide +kernel
  have houtside : (ofSmallWorld (-30)).isOutside := by decide +kernel
  obtain ⟨-, k, -, -, -, hleast, -⟩ := snapped_isLeastShift_iff hordered houtside
  refine ⟨hordered, houtside, k, hleast.mpr ?_⟩
  rintro ⟨n, -, hwest⟩
  have hn : (0 : ℝ) ≤ n := n.cast_nonneg
  simp only [ofSmallWorld, smallWorld, Extent.width, real] at hwest
  norm_num at hwest
  linarith

/-- Three half worlds to the east it takes two worlds, although one would do. -/
theorem not_isLeastShift_east : smallWorld.minX < smallWorld.maxX ∧ (ofSmallWorld 30).isOutside ∧
    ∀ k : ℤ, real (ofSmallWorld 30).snapped.center.x = real (30 : Rat) + k * real smallWorld.width →
      ¬ IsLeastShift smallWorld 30 k := by
  refine ⟨by decide +kernel, by decide +kernel, fun k hshift hleast => ?_⟩
  have hwest : (ofSmallWorld 30).snapped.center.x = -10 := by decide +kernel
  have hone : BringsInside smallWorld 30 (-1) := by
    simp only [BringsInside, smallWorld, Extent.width, real, Set.mem_Icc]
    norm_num
  have htwo : k = -2 := by
    rw [hwest] at hshift
    simp only [smallWorld, Extent.width, real] at hshift
    norm_num at hshift
    exact_mod_cast (by linarith : (k : ℝ) = -2)
  have hless := hleast (-1) hone
  rw [htwo] at hless
  exact absurd hless (by decide)

end Viewport

end AreaOfInterest
