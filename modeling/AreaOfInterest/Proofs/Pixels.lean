import AreaOfInterest.Proofs.Snapping

/-!
# Pixels

Pixels are counted from the upper left corner, to the right and downwards, positions from the origin of the map, to the
east and to the north. Reading a pixel as a position and finding the pixel of a position are inverse to each other.

Bringing the centre back moves the view by whole worlds to where the map looks the same. Every position keeps its pixel
when it is moved along, so that what is near a pixel stays near it.

Scalars are exact here.
-/

namespace AreaOfInterest

open Exact

variable {α : Type} [Scalar α]

/-- A whole number as a scalar. -/
def Scalar.ofInt : ℤ → α
  | .ofNat n => ofNat n
  | .negSucc n => -ofNat (n + 1)

/-- The position so many worlds further east. -/
def Wrap.worldsEast (projection : Extent α) (k : ℤ) (c : Coord α) : Coord α :=
  ⟨c.x + Scalar.ofInt k * projection.width, c.y⟩

variable [Exact α]

/-- A whole number as a real one. -/
theorem Exact.real_ofInt (k : ℤ) : real (Scalar.ofInt k : α) = k := by
  cases k with
  | ofNat n => exact real_ofNat n
  | negSucc n => rw [Scalar.ofInt, real_neg, real_ofNat, Int.cast_negSucc]

/-- Two positions with the same coordinates on the real line are the same. -/
theorem Coord.eq_of_real {c d : Coord α} (x : real c.x = real d.x) (y : real c.y = real d.y) : c = d := by
  obtain ⟨_, _⟩ := c
  cases real_injective x
  cases real_injective y
  rfl

/-- Unwrapping moves a position by whole worlds. -/
theorem Wrap.exists_worldsEast {projection : Extent α} (ordered : projection.minX < projection.maxX) (c : Coord α) :
    ∃ k : ℤ, unwrapCoord projection c = worldsEast projection k c := by
  obtain ⟨k, hk⟩ := (isUnwrapped_unwrapX ordered c.x).whole
  refine ⟨k, Coord.eq_of_real ?_ rfl⟩
  rw [unwrapCoord, hk, worldsEast, real_add, real_mul, real_ofInt]

namespace Viewport

open Wrap

variable {v : Viewport α}

section Scaled

variable (scaled : v.resolution ≠ 0.0)
include scaled

/-- A resolution other than zero is none on the real line either. -/
theorem real_resolution_ne_zero : real v.resolution ≠ 0 := fun hzero =>
  scaled (real_injective (hzero.trans real_zero.symm))

/-- The pixel of a position shows that position. -/
theorem coordAt_pixelOf (c : Coord α) : v.coordAt (v.pixelOf c) = c := by
  have hscaled := real_resolution_ne_zero scaled
  apply Coord.eq_of_real <;> simp only [coordAt, pixelOf, real_add, real_sub, real_mul, real_div]
  · rw [add_sub_cancel_right, div_mul_cancel₀ _ hscaled, add_sub_cancel]
  · rw [add_sub_cancel_right, div_mul_cancel₀ _ hscaled, sub_sub_cancel]

/-- The position at a pixel has that pixel. -/
theorem pixelOf_coordAt (p : Coord α) : v.pixelOf (v.coordAt p) = p := by
  have hscaled := real_resolution_ne_zero scaled
  apply Coord.eq_of_real <;> simp only [coordAt, pixelOf, real_add, real_sub, real_mul, real_div]
  · rw [add_sub_cancel_left, mul_div_cancel_right₀ _ hscaled, sub_add_cancel]
  · rw [sub_sub_cancel, mul_div_cancel_right₀ _ hscaled, sub_add_cancel]

end Scaled

/-- A position that is moved along with the centre keeps its pixel. -/
theorem pixelOf_worldsEast (projection : Extent α) (k : ℤ) (c : Coord α) :
    (v.setCenter (worldsEast projection k v.center)).pixelOf (worldsEast projection k c) = v.pixelOf c := by
  apply Coord.eq_of_real
  · simp only [pixelOf, setCenter, worldsEast, real_add, real_sub, real_div]
    rw [add_sub_add_right_eq_sub]
  · rfl

/-- A pixel shows the position that is as far to the east as the centre was moved. -/
theorem coordAt_worldsEast (projection : Extent α) (k : ℤ) (p : Coord α) :
    (v.setCenter (worldsEast projection k v.center)).coordAt p = worldsEast projection k (v.coordAt p) := by
  apply Coord.eq_of_real
  · simp only [coordAt, setCenter, worldsEast, real_add]
    rw [add_right_comm]
  · rfl

omit [Exact α] in
/-- The view is brought back in any case, and the centre had left the valid extent or not. -/
theorem snap_eq (v : Viewport α) : v.snap = (v.snapped, v.isOutside) := by
  unfold snap
  split
  · next houtside => rw [houtside]
  · next hinside => rw [snapped, if_neg hinside, Bool.eq_false_of_not_eq_true hinside]

omit [Exact α] in
/-- A view inside stays as it is. -/
theorem snap_of_inside (inside : ¬ v.isOutside) : v.snap = (v, false) := if_neg inside

/-- Reading pixels and finding them are inverse to each other, whatever the resolution, unless it is zero. Bringing a view
back moves its centre by whole worlds, and with it what the pixels show, and nothing else. It tells that the centre was
outside exactly when it was, and brings it inside, so that nothing is left to do a second time. For that the edges of the
projection have to be in order, as those of the world are, which every viewport that can be made shows. -/
theorem snap_keeps_pixels (v : Viewport α) :
    (v.resolution ≠ 0.0 → (∀ c, v.coordAt (v.pixelOf c) = c) ∧ ∀ p, v.pixelOf (v.coordAt p) = p) ∧
      (v.projection.minX < v.projection.maxX →
        (∃ k : ℤ, v.snap.1 = v.setCenter (worldsEast v.projection k v.center) ∧
          (∀ c, v.snap.1.pixelOf (worldsEast v.projection k c) = v.pixelOf c) ∧
          ∀ p, v.snap.1.coordAt p = worldsEast v.projection k (v.coordAt p)) ∧
        (v.snap.2 = true ↔ real v.center.x ∉ Set.Icc (real v.projection.minX) (real v.projection.maxX)) ∧
        real v.snap.1.center.x ∈ Set.Icc (real v.projection.minX) (real v.projection.maxX) ∧
        v.snap.1.snap = (v.snap.1, false)) := by
  refine ⟨fun scaled => ⟨coordAt_pixelOf scaled, pixelOf_coordAt scaled⟩, fun ordered => ?_⟩
  have hinside := not_isOutside_snapped ordered
  have hprojection : v.snapped.projection = v.projection := by rw [snapped_eq, setCenter]
  have houtside : v.isOutside ↔ real v.center.x ∉ Set.Icc (real v.projection.minX) (real v.projection.maxX) := by
    rw [← not_isOutside_iff, not_not, isOutside]
  obtain ⟨k, hmoved⟩ := exists_worldsEast ordered v.center
  rw [snap_eq]
  refine ⟨⟨k, ?_⟩, houtside, ?_, snap_of_inside hinside⟩
  · rw [snapped_eq, hmoved]
    exact ⟨rfl, pixelOf_worldsEast v.projection k, coordAt_worldsEast v.projection k⟩
  · rw [isOutside, hprojection, not_isOutside_iff] at hinside
    exact hinside

/-- Three half worlds to the east the centre is brought to the left edge, where it stays. -/
theorem snap_keeps_pixels_east :
    (ofSmallWorld 30).resolution ≠ 0.0 ∧ smallWorld.minX < smallWorld.maxX ∧
      (ofSmallWorld 30).coordAt ((ofSmallWorld 30).pixelOf ⟨31, 5⟩) = ⟨31, 5⟩ ∧
      (ofSmallWorld 30).snap = (ofSmallWorld (-10), true) ∧ (ofSmallWorld (-10)).snap = (ofSmallWorld (-10), false) := by
  have hscaled : (ofSmallWorld 30).resolution ≠ 0.0 := by decide +kernel
  have hordered : smallWorld.minX < smallWorld.maxX := by decide +kernel
  obtain ⟨hinverse, hsnapped⟩ := snap_keeps_pixels (ofSmallWorld 30)
  obtain ⟨-, -, -, hagain⟩ := hsnapped hordered
  have hback : (ofSmallWorld 30).snap = (ofSmallWorld (-10), true) := by decide +kernel
  rw [hback] at hagain
  exact ⟨hscaled, hordered, (hinverse hscaled).1 _, hback, hagain⟩

end Viewport

end AreaOfInterest
