import AreaOfInterest.Proofs.Eastings
import AreaOfInterest.Proofs.ExactExtents
import AreaOfInterest.Proofs.NumericOrder
import Mathlib.Algebra.Order.Archimedean.Basic

/-!
# Unwrapping

An easting is unwrapped by shifting it to the inside of the projection, by whole worlds, unless it is inside already.
The two edges belong to the inside, but of the eastings that are shifted none comes to lie on the right one. So the
positions of a ring in one copy of the world keep their places to each other, except where the ring touches the right
edge of the projection from outside: there some positions stay while the others move by a world.

What was unwrapped stays where it is. That does not depend on how far the eastings were shifted, as the result is kept
between the edges in any case. So it is the same with doubles, where the shift is rounded.
-/

namespace AreaOfInterest

open Exact

instance {α : Type} [Scalar α] [Exact α] : Std.Asymm fun x y : α => x < y where
  asymm x y h := by
    rw [lt_iff] at h ⊢
    exact h.asymm

instance {α : Type} [Scalar α] [NumericOrder α] : Std.Asymm fun x y : α => x < y where
  asymm _ _ := NumericOrder.lt_asymm

/-- Doubles that can be compared are numbers. -/
theorem Double.isNaN_of_lt {x y : Float} (h : x < y) : x.isNaN = false ∧ y.isNaN = false := by
  rw [lt_iff, order?] at h
  change x.toModel.unpack.isNaN = false ∧ y.toModel.unpack.isNaN = false
  generalize x.toModel.unpack = u, y.toModel.unpack = v at h
  rcases u with ⟨⟨⟩⟩ | _ | _ | _ <;> rcases v with ⟨⟨⟩⟩ | _ | _ | _ <;> first | exact ⟨rfl, rfl⟩ | cases h

namespace Wrap

variable {α : Type} [Scalar α]

/-- Unwrapping with another value in place of the shifted one, which rounding can lead to. -/
def unwrapXBy (shifted : α → α) (projection : Extent α) (x : α) : α :=
  if isOutside x projection then Scalar.clamp projection.minX projection.maxX (shifted x) else x

/-- How `x` is shifted, with the rounding of the scalars. -/
def shiftX (projection : Extent α) (x : α) : α := x + projection.width * worldsAway x projection

/-- Shifting is one way to unwrap. -/
theorem unwrapX_eq_unwrapXBy (projection : Extent α) :
    (unwrapX · projection) = unwrapXBy (shiftX projection) projection := rfl

/-- Every position of every ring is unwrapped in its place. -/
theorem forall₂_unwrapRings (rings : List (Polyline α)) (projection : Extent α) :
    List.Forall₂ (List.Forall₂ fun c c' => c'.x = unwrapX c.x projection ∧ c'.y = c.y) rings
      (unwrapRings rings projection) := by
  rw [unwrapRings, List.forall₂_map_right_iff, List.forall₂_same]
  intro ring _
  rw [List.forall₂_map_right_iff, List.forall₂_same]
  exact fun c _ => ⟨rfl, rfl⟩

section Edges

variable [Std.Asymm fun x y : α => x < y] {projection : Extent α}

/-- What is kept between the edges is beyond neither of them. -/
theorem not_isOutside_clamp (ordered : projection.minX < projection.maxX) (x : α) :
    ¬ isOutside (Scalar.clamp projection.minX projection.maxX x) projection := by
  have hasymm {x y : α} (h : x < y) : ¬ y < x := Std.Asymm.asymm x y h
  have hself (x : α) : ¬ x < x := fun h => hasymm h h
  rw [isOutside, Bool.or_eq_true, decide_eq_true_eq, decide_eq_true_eq, not_or]
  unfold Scalar.clamp
  split
  · exact ⟨hself _, hasymm ordered⟩
  · next hwest =>
    split
    · exact ⟨hasymm ordered, hself _⟩
    · next heast => exact ⟨hwest, heast⟩

/-- Nothing that was unwrapped is outside. -/
theorem not_isOutside_unwrapXBy (ordered : projection.minX < projection.maxX) (shifted : α → α) (x : α) :
    ¬ isOutside (unwrapXBy shifted projection x) projection := by
  unfold unwrapXBy
  split
  · exact not_isOutside_clamp ordered _
  · next hinside => exact hinside

/-- So it stays as it is. -/
theorem unwrapXBy_unwrapXBy (ordered : projection.minX < projection.maxX) (shifted : α → α) (x : α) :
    unwrapXBy shifted projection (unwrapXBy shifted projection x) = unwrapXBy shifted projection x :=
  if_neg (not_isOutside_unwrapXBy ordered shifted x)

end Edges

/-- A number is unwrapped to one. -/
theorem isNaN_unwrapXBy {projection : Extent Float} (ordered : projection.minX < projection.maxX)
    {shifted : Float → Float} {x : Float} (number : x.isNaN = false) (shiftedNumber : (shifted x).isNaN = false) :
    (unwrapXBy shifted projection x).isNaN = false := by
  obtain ⟨hwest, heast⟩ := Double.isNaN_of_lt ordered
  unfold unwrapXBy Scalar.clamp
  split_ifs
  · exact hwest
  · exact heast
  · exact shiftedNumber
  · exact number

/-- What unwrapping is to give for an easting. -/
structure IsUnwrapped [Exact α] (projection : Extent α) (x y : α) : Prop where
  mem : real y ∈ Set.Icc (real projection.minX) (real projection.maxX)
  whole : ∃ n : ℤ, real y = real x + n * real projection.width
  eq_of_mem : real x ∈ Set.Icc (real projection.minX) (real projection.maxX) → y = x
  mem_of_notMem : real x ∉ Set.Icc (real projection.minX) (real projection.maxX) →
    real y ∈ Set.Ico (real projection.minX) (real projection.maxX)

/-- A function of eastings leads to the inside of the projection, and what it was applied to it leaves where it is,
single eastings as well as rings and shapes. -/
structure Settles [Exact α] (projection : Extent α) (f : α → α) : Prop where
  mem (x : α) : real (f x) ∈ Set.Icc (real projection.minX) (real projection.maxX)
  easting (x : α) : f (f x) = f x
  rings (rings : List (Polyline α)) :
    (rings.map (·.map (Coord.mapX f))).map (·.map (Coord.mapX f)) = rings.map (·.map (Coord.mapX f))
  shape {shape : Shape α} (made : shape.Made) :
    (shape.map (Coord.mapX f)).map (Coord.mapX f) = shape.map (Coord.mapX f)

/-- One of the copies of the world that the map shows next to each other, counted from the projection eastwards. Its
right edge is the left one of the next. -/
def worldCopy [Exact α] (projection : Extent α) (k : ℤ) : Set ℝ :=
  Set.Ico (real projection.minX + k * real projection.width) (real projection.minX + (k + 1) * real projection.width)

/-- All positions of a ring are shifted by the same number of worlds. -/
def ShiftsAsOne [Exact α] (projection : Extent α) (ring : Polyline α) : Prop :=
  ∃ n : ℤ, ∀ c ∈ ring, real (unwrapX c.x projection) = real c.x + n * real projection.width

/-- Some positions of a ring are on the right edge of the projection, and some are not. -/
def TouchesEast (projection : Extent α) (ring : Polyline α) : Prop :=
  (∃ c ∈ ring, c.x = projection.maxX) ∧ ∃ c ∈ ring, c.x ≠ projection.maxX

variable [Exact α] {projection : Extent α} {x : α}

/-- A projection with its edges in order has some width. -/
theorem real_width_pos (ordered : projection.minX < projection.maxX) : 0 < real projection.width := by
  rw [lt_iff] at ordered
  rw [Extent.real_width]
  exact sub_pos.mpr ordered

/-- One number of worlds is wider than another when it is greater. -/
theorem worlds_lt_iff (ordered : projection.minX < projection.maxX) {m n : ℤ} :
    m * real projection.width < n * real projection.width ↔ m < n := by
  rw [mul_lt_mul_iff_left₀ (real_width_pos ordered), Int.cast_lt]

/-- An easting outside comes between the left edge and the right one, and not on the right one. -/
theorem exists_real_unwrapX (ordered : projection.minX < projection.maxX) (outside : isOutside x projection) :
    ∃ n : ℤ, real (unwrapX x projection) = real x + n * real projection.width ∧
      real (unwrapX x projection) ∈ Set.Ico (real projection.minX) (real projection.maxX) := by
  have hwide := real_width_pos ordered
  obtain ⟨n, hinside, -⟩ := existsUnique_add_zsmul_mem_Ico hwide (real x) (real projection.minX)
  rw [zsmul_eq_mul, Extent.real_width projection, add_sub_cancel, ← Extent.real_width] at hinside
  have hshift := real_unwrapX hwide outside hinside
  rw [← hshift] at hinside
  exact ⟨n, hshift, hinside⟩

/-- What unwrapping gives for an easting. -/
theorem isUnwrapped_unwrapX (ordered : projection.minX < projection.maxX) (x : α) :
    IsUnwrapped projection x (unwrapX x projection) := by
  by_cases houtside : isOutside x projection
  · obtain ⟨n, hshift, west, east⟩ := exists_real_unwrapX ordered houtside
    have hnotMem : real x ∉ Set.Icc (real projection.minX) (real projection.maxX) := fun hmem =>
      not_isOutside_iff.mpr hmem houtside
    exact ⟨⟨west, east.le⟩, ⟨n, hshift⟩, fun hmem => absurd hmem hnotMem, fun _ => ⟨west, east⟩⟩
  · have hmem := not_isOutside_iff.mp houtside
    rw [unwrapX_of_mem hmem]
    exact ⟨hmem, ⟨0, by simp⟩, fun _ => rfl, fun hnotMem => absurd hmem hnotMem⟩

/-- Unwrapping settles everything, whatever the eastings are shifted to. -/
theorem settles_unwrapXBy (ordered : projection.minX < projection.maxX) (shifted : α → α) :
    Settles projection (unwrapXBy shifted projection) where
  mem x := not_isOutside_iff.mp (not_isOutside_unwrapXBy ordered shifted x)
  easting := unwrapXBy_unwrapXBy ordered shifted
  rings rings := by
    rw [List.map_map]
    refine List.map_congr_left fun ring _ => ?_
    rw [Function.comp_apply, List.map_map]
    exact List.map_congr_left fun c _ => congrArg (Coord.mk · c.y) (unwrapXBy_unwrapXBy ordered shifted c.x)
  shape made := made.map_map_mapX (unwrapXBy_unwrapXBy ordered shifted)

/-- The eastings of one copy of the world are shifted by as many worlds as it is away. The right edge of the projection
belongs to the next copy, but is not shifted. -/
theorem real_unwrapX_of_mem_worldCopy (ordered : projection.minX < projection.maxX) {k : ℤ}
    (within : real x ∈ worldCopy projection k) :
    real (unwrapX x projection) = real x - k * real projection.width ∨ k = 1 ∧ x = projection.maxX := by
  obtain ⟨west, east⟩ := within
  have hwide := real_width_pos ordered
  have hedges := Extent.real_width projection
  by_cases houtside : isOutside x projection
  · left
    have hinside :
        real x + (-k : ℤ) * real projection.width ∈ Set.Ico (real projection.minX) (real projection.maxX) := by
      push_cast
      constructor <;> linarith
    rw [real_unwrapX hwide houtside hinside]
    push_cast
    ring
  · obtain ⟨hwest, heast⟩ := not_isOutside_iff.mp houtside
    rw [unwrapX_of_mem ⟨hwest, heast⟩]
    -- An easting inside is in the copy that is the projection, or on its right edge.
    have hlower : -1 < k := by
      rw [← worlds_lt_iff ordered]
      push_cast
      linarith
    have hupper : k < 2 := by
      rw [← worlds_lt_iff ordered]
      push_cast
      linarith
    obtain rfl | rfl : k = 0 ∨ k = 1 := by omega
    · left
      simp
    · right
      refine ⟨rfl, real_injective ?_⟩
      push_cast at west
      linarith

/-- A ring in one copy of the world is shifted as one, except for the copy east of the projection when the ring has
positions on the edge between them and others. -/
theorem shiftsAsOne_iff (ordered : projection.minX < projection.maxX) {k : ℤ} {ring : Polyline α}
    (within : ∀ c ∈ ring, real c.x ∈ worldCopy projection k) :
    ShiftsAsOne projection ring ↔ ¬ (k = 1 ∧ TouchesEast projection ring) := by
  have hstays : unwrapX projection.maxX projection = projection.maxX :=
    unwrapX_of_mem ⟨((lt_iff _ _).mp ordered).le, le_rfl⟩
  constructor
  · rintro ⟨n, hshift⟩ ⟨rfl, ⟨c, hc, hedge⟩, d, hd, hbeyond⟩
    have hwide := real_width_pos ordered
    have hn : n * real projection.width = 0 := by
      have hc' := hshift c hc
      rw [hedge, hstays] at hc'
      linarith
    obtain hd' | ⟨-, hedge'⟩ := real_unwrapX_of_mem_worldCopy ordered (within d hd)
    · rw [hshift d hd, hn] at hd'
      push_cast at hd'
      linarith
    · exact hbeyond hedge'
  · intro hapart
    by_cases hedge : k = 1 ∧ ∃ c ∈ ring, c.x = projection.maxX
    · have hall : ∀ c ∈ ring, c.x = projection.maxX := by
        by_contra hsome
        rw [not_forall₂] at hsome
        obtain ⟨c, hc, hbeyond⟩ := hsome
        exact hapart ⟨hedge.1, hedge.2, c, hc, hbeyond⟩
      refine ⟨0, fun c hc => ?_⟩
      rw [hall c hc, hstays]
      simp
    · refine ⟨-k, fun c hc => ?_⟩
      obtain hshift | ⟨hone, heast⟩ := real_unwrapX_of_mem_worldCopy ordered (within c hc)
      · rw [hshift]
        push_cast
        ring
      · exact absurd ⟨hone, c, hc, heast⟩ hedge

/-- Every easting is unwrapped. A ring in one copy of the world is shifted as one, unless it touches the right edge of
the projection from outside. Rings keep their positions, in their places and with their northings, and so do shapes, up
to the order of the corners of boxes and triangles. What was unwrapped settles, whatever the shifted eastings are
rounded to. With doubles too it is between the edges, where it stays, and it is a number when the easting and the
shifted one are. -/
theorem unwraps_and_settles (ordered : projection.minX < projection.maxX) :
    (∀ x, IsUnwrapped projection x (unwrapX x projection)) ∧
    (∀ (k : ℤ) (ring : Polyline α), (∀ c ∈ ring, real c.x ∈ worldCopy projection k) →
      (ShiftsAsOne projection ring ↔ ¬ (k = 1 ∧ TouchesEast projection ring))) ∧
    (∀ rings : List (Polyline α),
      unwrapRings (unwrapRings rings projection) projection = unwrapRings rings projection ∧
      List.Forall₂ (List.Forall₂ fun c c' => c'.x = unwrapX c.x projection ∧ c'.y = c.y) rings
        (unwrapRings rings projection)) ∧
    (∀ shape : Shape α, shape.Made →
      unwrapShape (unwrapShape shape projection) projection = unwrapShape shape projection ∧
      shape.Moved (unwrapX · projection) (unwrapShape shape projection)) ∧
    (∀ shifted : α → α, Settles projection (unwrapXBy shifted projection)) ∧
    ∀ p : Extent Float, p.minX < p.maxX → ∀ (shifted : Float → Float) (x : Float),
      ¬ isOutside (unwrapXBy shifted p x) p ∧
      unwrapXBy shifted p (unwrapXBy shifted p x) = unwrapXBy shifted p x ∧
      (x.isNaN = false → (shifted x).isNaN = false → (unwrapXBy shifted p x).isNaN = false) := by
  have hsettles : Settles projection (unwrapX · projection) := by
    rw [unwrapX_eq_unwrapXBy]
    exact settles_unwrapXBy ordered (shiftX projection)
  refine ⟨isUnwrapped_unwrapX ordered, fun k ring within => shiftsAsOne_iff ordered within, fun rings => ?_,
    fun shape made => ?_, settles_unwrapXBy ordered, fun p hp shifted x => ?_⟩
  · exact ⟨hsettles.rings rings, forall₂_unwrapRings rings projection⟩
  · exact ⟨hsettles.shape made, made.moved _⟩
  · exact ⟨not_isOutside_unwrapXBy hp shifted x, unwrapXBy_unwrapXBy hp shifted x, isNaN_unwrapXBy hp⟩

/-- A projection that is twenty wide, with its middle at zero. -/
def smallWorld : Extent Rat := ⟨-10, -10, 10, 10⟩

/-- A ring two worlds to the east, which starts on the left edge of that copy. -/
def farRing : Polyline Rat := [⟨30, 0⟩, ⟨49, 5⟩, ⟨41, 5⟩, ⟨30, 0⟩]

/-- Three half worlds to the east is the left edge. The ring keeps its form, and so does the one around a polygon. -/
theorem unwraps_and_settles_farRing : smallWorld.minX < smallWorld.maxX ∧ IsUnwrapped smallWorld 30 (-10) ∧
    ShiftsAsOne smallWorld farRing ∧ unwrapRings [farRing] smallWorld = [[⟨-10, 0⟩, ⟨9, 5⟩, ⟨1, 5⟩, ⟨-10, 0⟩]] ∧
    Shape.Moved (unwrapX · smallWorld) (.polygon ⟨farRing, []⟩) (unwrapShape (.polygon ⟨farRing, []⟩) smallWorld) := by
  have hordered : smallWorld.minX < smallWorld.maxX := by decide +kernel
  have hodd : unwrapX 30 smallWorld = -10 := by decide +kernel
  have hclosed : Polygon.Closed ⟨farRing, []⟩ := by simp [Polygon.Closed, Polygon.rings, Polyline.isClosed, farRing]
  have hcopy : ∀ c ∈ farRing, real c.x ∈ worldCopy smallWorld 2 := by
    simp only [farRing, worldCopy, smallWorld, Extent.width, real, List.forall_mem_cons, Set.mem_Ico]
    norm_num
  obtain ⟨heasting, hring, -, hshape, -⟩ := unwraps_and_settles hordered
  exact ⟨hordered, hodd ▸ heasting 30, (hring 2 farRing hcopy).mpr fun h => absurd h.1 (by decide), by decide +kernel,
    (hshape _ (.polygon hclosed)).2⟩

/-- A ring that starts on the right edge of the small world and goes on to the east of it. -/
def seamRing : Polyline Rat := [⟨10, 0⟩, ⟨12, 0⟩, ⟨12, 5⟩, ⟨10, 0⟩]

/-- A box across the right edge of the small world. -/
def seamBox : Shape Rat := .rect ⟨8, 0⟩ ⟨14, 5⟩

/-- The ring lies in one copy of the world and is torn apart. The box has its sides exchanged, so that its corners are
not the unwrapped ones in their order. -/
theorem not_shiftsAsOne_seamRing :
    smallWorld.minX < smallWorld.maxX ∧
      (∀ c ∈ seamRing, real c.x ∈ worldCopy smallWorld 1) ∧ ¬ ShiftsAsOne smallWorld seamRing ∧
      (unwrapShape seamBox smallWorld).coords ≠ seamBox.coords.map (unwrapCoord smallWorld) := by
  have hordered : smallWorld.minX < smallWorld.maxX := by decide +kernel
  have hcopy : ∀ c ∈ seamRing, real c.x ∈ worldCopy smallWorld 1 := by
    simp only [seamRing, worldCopy, smallWorld, Extent.width, real, List.forall_mem_cons, Set.mem_Ico]
    norm_num
  have htouches : TouchesEast smallWorld seamRing :=
    ⟨⟨⟨10, 0⟩, by decide +kernel⟩, ⟨12, 0⟩, by decide +kernel⟩
  exact ⟨hordered, hcopy, fun hshifts => (shiftsAsOne_iff hordered hcopy).mp hshifts ⟨rfl, htouches⟩,
    by decide +kernel⟩

end Wrap

end AreaOfInterest
