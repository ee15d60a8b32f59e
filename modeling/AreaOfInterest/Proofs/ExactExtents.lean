import AreaOfInterest.Proofs.Exact

/-!
# Extents on the real line

What the operations on extents amount to with exact scalars. A bounding rectangle has the least and the greatest
coordinates for its limits, and unwrapping adds the number of widths that brings a value into the projection.
-/

namespace AreaOfInterest

open Exact

variable {α : Type} [Scalar α] [Exact α]

namespace Mercator

/-- The radius of the sphere on the real line. -/
theorem real_earthRadius : real (earthRadius : α) = 6378137 := by
  rw [earthRadius, real_ofScientific]
  norm_num

/-- Half the width of the world on the real line. -/
theorem real_halfWorld : real (halfWorld : α) = real (Scalar.pi : α) * 6378137 := by
  rw [halfWorld, real_mul, real_earthRadius]

/-- Half the world has some width. -/
theorem real_halfWorld_pos : 0 < real (halfWorld : α) := by
  rw [real_halfWorld]
  exact mul_pos pi_pos (by norm_num)

end Mercator

namespace Extent

/-- Two extents with the same limits on the real line are the same. -/
theorem eq_of_real {e f : Extent α} (minX : real e.minX = real f.minX) (minY : real e.minY = real f.minY)
    (maxX : real e.maxX = real f.maxX) (maxY : real e.maxY = real f.maxY) : e = f := by
  obtain ⟨_, _, _, _⟩ := e
  cases real_injective minX
  cases real_injective minY
  cases real_injective maxX
  cases real_injective maxY
  rfl

/-- The width of an extent as a real number. -/
theorem real_width (e : Extent α) : real e.width = real e.maxX - real e.minX := real_sub _ _

/-- The left edge of the world on the real line. -/
theorem real_minX_world : real (world : Extent α).minX = -real (Mercator.halfWorld : α) := real_neg _

/-- The right edge of the world on the real line. -/
theorem real_maxX_world : real (world : Extent α).maxX = real (Mercator.halfWorld : α) := rfl

/-- The world has some width. -/
theorem width_world_pos (α : Type) [Scalar α] [Exact α] : 0 < real (world : Extent α).width := by
  have hpos := Mercator.real_halfWorld_pos (α := α)
  rw [real_width, real_minX_world, real_maxX_world]
  linarith

/-- One step of a running minimum and maximum that are in order. -/
theorem real_widenRange {range : α × α} (ordered : real range.1 ≤ real range.2) (value : α) :
    real (widenRange range value).1 = min (real range.1) (real value) ∧
      real (widenRange range value).2 = max (real range.2) (real value) := by
  unfold widenRange
  split
  · next habove =>
    rw [gt_iff_lt, lt_iff] at habove
    exact ⟨(min_eq_left (ordered.trans habove.le)).symm, (max_eq_right habove.le).symm⟩
  · next hupper =>
    rw [gt_iff_lt, lt_iff, not_lt] at hupper
    split
    · next hbelow =>
      rw [lt_iff] at hbelow
      exact ⟨(min_eq_right hbelow.le).symm, (max_eq_left hupper).symm⟩
    · next hlower =>
      rw [lt_iff, not_lt] at hlower
      exact ⟨(min_eq_left hlower).symm, (max_eq_left hupper).symm⟩

/-- A running minimum and maximum are those of the values. -/
theorem real_foldl_widenRange (values : List α) {range : α × α} (ordered : real range.1 ≤ real range.2) :
    real (values.foldl widenRange range).1 = (values.map real).foldl min (real range.1) ∧
      real (values.foldl widenRange range).2 = (values.map real).foldl max (real range.2) := by
  induction values generalizing range with
  | nil => exact ⟨rfl, rfl⟩
  | cons value values ih =>
    obtain ⟨hmin, hmax⟩ := real_widenRange ordered value
    have hordered : real (widenRange range value).1 ≤ real (widenRange range value).2 := by
      rw [hmin, hmax]
      exact (min_le_left _ _).trans (ordered.trans (le_max_left _ _))
    rw [List.foldl_cons, List.map_cons, List.foldl_cons, List.foldl_cons, ← hmin, ← hmax]
    exact ih hordered

/-- The bounding rectangle of some positions has the least and the greatest of their coordinates for its limits. -/
theorem real_bounding? (c : Coord α) (rest : List (Coord α)) :
    ∃ e, bounding? (c :: rest) = some e ∧
      real e.minX = ((rest.map (·.x)).map real).foldl min (real c.x) ∧
      real e.maxX = ((rest.map (·.x)).map real).foldl max (real c.x) ∧
      real e.minY = ((rest.map (·.y)).map real).foldl min (real c.y) ∧
      real e.maxY = ((rest.map (·.y)).map real).foldl max (real c.y) := by
  have hx := real_foldl_widenRange (rest.map (·.x)) (le_refl (real (c.x, c.x).1))
  have hy := real_foldl_widenRange (rest.map (·.y)) (le_refl (real (c.y, c.y).1))
  exact ⟨_, rfl, hx.1, hx.2, hy.1, hy.2⟩

/-- The bounding rectangle of the polygon around an extent has its limits in order. -/
theorem ofShape?_polygon (e : Extent α) :
    ∃ shown, ofShape? (.polygon e.polygon) = some shown ∧
      real shown.minX = min (real e.minX) (real e.maxX) ∧ real shown.maxX = max (real e.minX) (real e.maxX) ∧
      real shown.minY = min (real e.minY) (real e.maxY) ∧ real shown.maxY = max (real e.minY) (real e.maxY) := by
  have hcorner : (⟨e.minX, e.minY⟩ : Coord α) == ⟨e.minX, e.minY⟩ :=
    Bool.and_eq_true_iff.mpr ⟨(beq_iff _ _).mpr rfl, (beq_iff _ _).mpr rfl⟩
  have hclosed : Polyline.isClosed e.ring := hcorner
  have hexterior : e.polygon.exterior = e.ring := if_pos hclosed
  obtain ⟨shown, hshown, hminX, hmaxX, hminY, hmaxY⟩ := real_bounding? ⟨e.minX, e.minY⟩
    [⟨e.minX, e.maxY⟩, ⟨e.maxX, e.maxY⟩, ⟨e.maxX, e.minY⟩, ⟨e.minX, e.minY⟩]
  refine ⟨shown, ?_, ?_, ?_, ?_, ?_⟩
  · rw [ofShape?, hexterior]
    exact hshown
  · simpa [min_assoc, min_comm] using hminX
  · simpa [max_assoc, max_comm] using hmaxX
  · simpa [min_assoc, min_comm] using hminY
  · simpa [max_assoc, max_comm] using hmaxY

end Extent

namespace Wrap

variable {projection : Extent α} {x : α}

/-- What is beyond an edge of the projection is outside. -/
theorem isOutside_iff : isOutside x projection ↔ real x < real projection.minX ∨ real projection.maxX < real x := by
  rw [← lt_iff, ← lt_iff, isOutside, Bool.or_eq_true, decide_eq_true_eq, decide_eq_true_eq]

/-- What is not beyond an edge is inside. -/
theorem not_isOutside_iff :
    ¬ isOutside x projection ↔ real x ∈ Set.Icc (real projection.minX) (real projection.maxX) := by
  rw [isOutside_iff, not_or, not_lt, not_lt, Set.mem_Icc]

/-- What is inside stays as it is. -/
theorem unwrapX_of_mem (inside : real x ∈ Set.Icc (real projection.minX) (real projection.maxX)) :
    unwrapX x projection = x := by
  rw [unwrapX, if_neg (not_isOutside_iff.mpr inside)]

/-- What is kept between two values in order is between them. -/
theorem real_clamp_mem {lo hi : α} (ordered : real lo ≤ real hi) (x : α) :
    real (Scalar.clamp lo hi x) ∈ Set.Icc (real lo) (real hi) := by
  unfold Scalar.clamp
  split
  · exact ⟨le_rfl, ordered⟩
  · next hlower =>
    rw [lt_iff, not_lt] at hlower
    split
    · exact ⟨ordered, le_rfl⟩
    · next hupper =>
      rw [gt_iff_lt, lt_iff, not_lt] at hupper
      exact ⟨hlower, hupper⟩

/-- What is between two values is kept. -/
theorem clamp_of_mem {lo hi : α} (inside : real x ∈ Set.Icc (real lo) (real hi)) : Scalar.clamp lo hi x = x := by
  rw [Scalar.clamp, if_neg, if_neg]
  · rw [gt_iff_lt, lt_iff, not_lt]
    exact inside.2
  · rw [lt_iff, not_lt]
    exact inside.1

/-- What is unwrapped is inside. -/
theorem unwrapX_mem (ordered : real projection.minX ≤ real projection.maxX) (x : α) :
    real (unwrapX x projection) ∈ Set.Icc (real projection.minX) (real projection.maxX) := by
  unfold unwrapX
  split
  · exact real_clamp_mem ordered _
  · next hinside => exact not_isOutside_iff.mp hinside

/-- What is outside is shifted by the number of worlds that brings it inside. -/
theorem real_unwrapX {n : ℤ} (wide : 0 < real projection.width) (outside : isOutside x projection)
    (inside : real x + n * real projection.width ∈ Set.Ico (real projection.minX) (real projection.maxX)) :
    real (unwrapX x projection) = real x + n * real projection.width := by
  obtain ⟨west, east⟩ := inside
  have hworlds : real (worldsAway x projection) = n := by
    rw [worldsAway, real_ceil, real_div, real_sub]
    norm_cast
    rw [Int.ceil_eq_iff]
    constructor
    · rw [lt_div_iff₀ wide]
      linarith [Extent.real_width projection]
    · rw [div_le_iff₀ wide]
      linarith
  have hshifted : real (x + projection.width * worldsAway x projection) = real x + n * real projection.width := by
    rw [real_add, real_mul, hworlds, mul_comm]
  rw [unwrapX, if_pos outside, clamp_of_mem, hshifted]
  rw [hshifted]
  exact ⟨west, east.le⟩

end Wrap

end AreaOfInterest
