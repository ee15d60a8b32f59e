import AreaOfInterest.Proofs.SquareWorld
import AreaOfInterest.Proofs.BoxCorners

/-!
# Boxes that are written and read

A box on the map is written as its western, southern, eastern and northern limits in degrees. Its corners are taken off
the map, their longitudes are kept within one turn, and all four limits are rounded. Each of these steps keeps the order,
so that the limits of a box in order are written in order.

Reading puts the corners back on the map. What was read is written as it was, if it is on the grid of five places, within
one turn and between the latitudes of the map: then none of the steps loses anything.
-/

namespace AreaOfInterest

open Exact

namespace Mercator

variable {α : Type} [Scalar α]

/-- Degrees between the edges of the square. -/
def IsLatitude (y : α) : Prop := -maxLatitude ≤ y ∧ y ≤ maxLatitude

variable [Exact α]

/-- Longitudes are in the order of their eastings. -/
theorem real_longitude_mono {x y : α} (h : real x ≤ real y) : real (longitude x) ≤ real (longitude y) := by
  refine le_of_mul_le_mul_right ?_ (real_halfWorld_pos (α := α))
  rw [real_longitude, real_longitude]
  linarith

section Turn

variable [NumericOrder α]

/-- A longitude is moved to the nearer end of the turn that it has left. -/
theorem real_clampLongitude (c : Coord α) : real (clampLongitude c).x = max (-180) (min (real c.x) 180) := by
  unfold clampLongitude
  dsimp only
  split
  · next hpos =>
    rw [gt_iff_lt, lt_iff, real_zero] at hpos
    rw [real_min, real_halfTurn, max_eq_right]
    exact le_min (by linarith) (by norm_num)
  · next hneg =>
    rw [gt_iff_lt, lt_iff, real_zero, not_lt] at hneg
    rw [real_max, real_neg, real_halfTurn, max_comm, min_eq_left (by linarith)]

/-- It is within one turn then. -/
theorem isLongitude_clamped (c : Coord α) : IsLongitude (clampLongitude c).x := by
  rw [isLongitude_iff, real_clampLongitude]
  push_cast
  exact ⟨le_max_left _ _, max_le (by norm_num) (min_le_right _ _)⟩

/-- Longitudes are kept in order. -/
theorem real_clampLongitude_mono {c d : Coord α} (h : real c.x ≤ real d.x) :
    real (clampLongitude c).x ≤ real (clampLongitude d).x := by
  rw [real_clampLongitude, real_clampLongitude]
  exact max_le_max le_rfl (min_le_min h le_rfl)

/-- A longitude that is within one turn is kept. -/
theorem clampLongitude_of_isLongitude {c : Coord α} (h : IsLongitude c.x) : clampLongitude c = c := by
  obtain ⟨hwest, heast⟩ := isLongitude_iff.mp h
  push_cast at hwest heast
  have hx : (clampLongitude c).x = c.x := by
    apply real_injective
    rw [real_clampLongitude, min_eq_left heast, max_eq_right hwest]
  exact congrArg (fun x => (⟨x, c.y⟩ : Coord α)) hx

end Turn

/-- Latitudes are in the order of their northings. -/
theorem latitude_mono : Monotone (latitude : ℝ → ℝ) := by
  intro x y h
  change (2.0 * Real.arctan (Real.exp (x / 6378137.0)) - Real.pi / 2.0) * (180.0 / Real.pi) ≤
    (2.0 * Real.arctan (Real.exp (y / 6378137.0)) - Real.pi / 2.0) * (180.0 / Real.pi)
  have hpi := Real.pi_pos
  have hangle : Real.arctan (Real.exp (x / 6378137.0)) ≤ Real.arctan (Real.exp (y / 6378137.0)) :=
    Real.arctan_mono (Real.exp_le_exp.mpr (by gcongr))
  gcongr

end Mercator

namespace Extent

variable {α : Type} [Scalar α] [Exact α] [NumericOrder α]

/-- A corner of a box is written as it was read. -/
theorem clampLongitude_unproject_project [Mercator.Invertible α] {x y : α} (longitude : Mercator.IsLongitude x)
    (latitude : Mercator.IsLatitude y) :
    Mercator.clampLongitude (Mercator.unproject (Mercator.project ⟨x, y⟩)) = ⟨x, y⟩ := by
  rw [Mercator.Invertible.unproject_project latitude.1 latitude.2]
  exact Mercator.clampLongitude_of_isLongitude longitude

/-- A box on the grid that is on the map is written as it was read. -/
theorem serialize_deserialize [Mercator.Invertible α] {west south east north : α}
    (grid : ∀ limit ∈ [west, south, east, north], Mercator.truncate limit = limit)
    (lower : Mercator.IsLongitude west ∧ Mercator.IsLatitude south)
    (upper : Mercator.IsLongitude east ∧ Mercator.IsLatitude north) :
    ∃ x, deserialize? [west, south, east, north] = some x ∧ x.serialize = [west, south, east, north] := by
  have hwritten (c d : Coord α) : serialize ⟨c.x, c.y, d.x, d.y⟩ =
      [(Mercator.clampLongitude (Mercator.unproject c)).x, (Mercator.clampLongitude (Mercator.unproject c)).y,
        (Mercator.clampLongitude (Mercator.unproject d)).x,
        (Mercator.clampLongitude (Mercator.unproject d)).y].map Mercator.truncate := rfl
  refine ⟨_, rfl, ?_⟩
  rw [hwritten, clampLongitude_unproject_project lower.1 lower.2, clampLongitude_unproject_project upper.1 upper.2]
  exact map_eq_self grid

omit [Exact α] [NumericOrder α] in
/-- Only four limits are a box. -/
theorem deserialize?_eq_none_iff {bbox : List α} : deserialize? bbox = none ↔ bbox.length ≠ 4 := by
  constructor
  · intro hnone hlength
    match bbox, hlength with
    | [_, _, _, _], _ => cases hnone
  · intro hlength
    unfold deserialize?
    split
    · exact absurd rfl hlength
    · rfl

/-- The limits of a box that is in order are written in order, with longitudes within one turn. -/
theorem serialize_inOrder (x : Extent ℝ) (wide : x.minX ≤ x.maxX) (high : x.minY ≤ x.maxY) :
    ∃ west south east north, x.serialize = [west, south, east, north] ∧ west ≤ east ∧ south ≤ north ∧
      Mercator.IsLongitude west ∧ Mercator.IsLongitude east := by
  have hturn (c : Coord ℝ) : Mercator.IsLongitude (Mercator.truncate (Mercator.clampLongitude c).x) :=
    Mercator.isLongitude_truncate (Mercator.isLongitude_clamped c)
  refine ⟨_, _, _, _, rfl, ?_, ?_, hturn _, hturn _⟩
  · exact Mercator.real_truncate_mono (α := ℝ)
      (Mercator.real_clampLongitude_mono (Mercator.real_longitude_mono (α := ℝ) wide))
  · exact Mercator.real_truncate_mono (α := ℝ) (Mercator.latitude_mono high)

/-- With real numbers a box that is on the map, and on the grid of five places, is read and written as it was. Anything
but four limits is refused. Whatever box in order is written, its limits are in order and its longitudes within one turn. -/
theorem serialize_inverts_deserialize :
    (∀ west south east north : ℝ, (∀ limit ∈ [west, south, east, north], Mercator.truncate limit = limit) →
      Mercator.IsLongitude west → Mercator.IsLatitude south → Mercator.IsLongitude east → Mercator.IsLatitude north →
      ∃ x, deserialize? [west, south, east, north] = some x ∧ x.serialize = [west, south, east, north]) ∧
    (∀ bbox : List ℝ, deserialize? bbox = none ↔ bbox.length ≠ 4) ∧
    ∀ x : Extent ℝ, x.minX ≤ x.maxX → x.minY ≤ x.maxY →
      ∃ west south east north, x.serialize = [west, south, east, north] ∧ west ≤ east ∧ south ≤ north ∧
        Mercator.IsLongitude west ∧ Mercator.IsLongitude east :=
  ⟨fun _ _ _ _ grid west south east north => serialize_deserialize grid ⟨west, south⟩ ⟨east, north⟩,
    fun _ => deserialize?_eq_none_iff, serialize_inOrder⟩

/-- A box from one end of the turn to the other, almost up to the edge of the square, and one that is wider than the
world. -/
theorem serialize_inverts_deserialize_atTheEdges :
    (∀ limit ∈ [(-180 : ℝ), -85.05112, 180, 85.05112], Mercator.truncate limit = limit) ∧
      Mercator.IsLongitude (-180 : ℝ) ∧ Mercator.IsLatitude (-85.05112 : ℝ) ∧
      Mercator.IsLongitude (180 : ℝ) ∧ Mercator.IsLatitude (85.05112 : ℝ) ∧
      (∃ x, deserialize? [(-180 : ℝ), -85.05112, 180, 85.05112] = some x ∧
        x.serialize = [-180, -85.05112, 180, 85.05112]) ∧
      ∃ west south east north, (⟨-30000000, 0, 30000000, 1⟩ : Extent ℝ).serialize = [west, south, east, north] ∧
        west ≤ east ∧ south ≤ north ∧ Mercator.IsLongitude west ∧ Mercator.IsLongitude east := by
  obtain ⟨hread, -, hordered⟩ := serialize_inverts_deserialize
  have hgrid : ∀ limit ∈ [(-180 : ℝ), -85.05112, 180, 85.05112], Mercator.truncate limit = limit := by
    simp only [List.forall_mem_cons, List.not_mem_nil, false_imp_iff, implies_true, and_true,
      Mercator.truncate_eq_self_iff, real, id]
    exact ⟨⟨-18000000, by norm_num⟩, ⟨-8505112, by norm_num⟩, ⟨18000000, by norm_num⟩, ⟨8505112, by norm_num⟩⟩
  have hmax : (Mercator.maxLatitude : ℝ) = 85.05112877980659 := rfl
  have hwest : Mercator.IsLongitude (-180 : ℝ) := by norm_num [Mercator.IsLongitude]
  have hsouth : Mercator.IsLatitude (-85.05112 : ℝ) := by norm_num [Mercator.IsLatitude, hmax]
  have heast : Mercator.IsLongitude (180 : ℝ) := by norm_num [Mercator.IsLongitude]
  have hnorth : Mercator.IsLatitude (85.05112 : ℝ) := by norm_num [Mercator.IsLatitude, hmax]
  exact ⟨hgrid, hwest, hsouth, heast, hnorth, hread _ _ _ _ hgrid hwest hsouth heast hnorth,
    hordered _ (by norm_num) (by norm_num)⟩

end Extent

end AreaOfInterest
