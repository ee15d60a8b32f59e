import AreaOfInterest.Proofs.Conversions
import AreaOfInterest.Proofs.Exact

/-!
# Moving positions sideways

A function of eastings moves the positions of a shape from left to right. Each stays in its place with its northing, so
that rings keep their order, their number of points and their end. Boxes and triangles are made anew of the corners
that were moved: a box puts its two sides in order, and a triangle goes round counter-clockwise again.

A function that leaves its values where they are leaves the shapes where they are as well, once they were moved by it.

Scalars are exact here.
-/

namespace AreaOfInterest

open Exact

variable {α : Type}

/-- The position with its easting changed. -/
def Coord.mapX (f : α → α) (c : Coord α) : Coord α := ⟨f c.x, c.y⟩

/-- The polygon with each of its positions changed in its place. -/
def Polygon.mapPlaces (f : Coord α → Coord α) (p : Polygon α) : Polygon α :=
  ⟨p.exterior.map f, p.interiors.map (·.map f)⟩

/-- Three corners that go round clockwise. -/
def Coord.Clockwise [Scalar α] (a b c : Coord α) : Prop :=
  (b.x - a.x) * (c.y - a.y) - (b.y - a.y) * (c.x - a.x) < 0.0

namespace Shape

/-- Shapes as they are made, with rings that are closed and boxes that are upright. -/
inductive Made [BEq α] [LE α] : Shape α → Prop where
  | point (c : Coord α) : Made (.point c)
  | line (a b : Coord α) : Made (.line a b)
  | polyline (path : Polyline α) : Made (.polyline path)
  | polygon {p : Polygon α} (closed : p.Closed) : Made (.polygon p)
  | multiPoint (points : List (Coord α)) : Made (.multiPoint points)
  | multiPolyline (paths : List (Polyline α)) : Made (.multiPolyline paths)
  | multiPolygon {polygons : List (Polygon α)} (closed : ∀ p ∈ polygons, p.Closed) : Made (.multiPolygon polygons)
  | rect {lower upper : Coord α} (upright : lower.y ≤ upper.y) : Made (.rect lower upper)
  | triangle (a b c : Coord α) : Made (.triangle a b c)
  | collection {members : List (Shape α)} (made : ∀ m ∈ members, m.Made) : Made (.collection members)

/-- A shape has the positions of another one, each in its place and with its northing, and with its easting changed.
The sides of a box that come to lie the other way round are exchanged, and so are the first and the last corner of a
triangle that would go round clockwise. -/
inductive Moved [Scalar α] (f : α → α) : Shape α → Shape α → Prop where
  | point (c : Coord α) : Moved f (.point c) (.point (c.mapX f))
  | line (a b : Coord α) : Moved f (.line a b) (.line (a.mapX f) (b.mapX f))
  | polyline (path : Polyline α) : Moved f (.polyline path) (.polyline (path.map (Coord.mapX f)))
  | polygon (p : Polygon α) : Moved f (.polygon p) (.polygon (p.mapPlaces (Coord.mapX f)))
  | multiPoint (points : List (Coord α)) : Moved f (.multiPoint points) (.multiPoint (points.map (Coord.mapX f)))
  | multiPolyline (paths : List (Polyline α)) :
      Moved f (.multiPolyline paths) (.multiPolyline (paths.map (·.map (Coord.mapX f))))
  | multiPolygon (polygons : List (Polygon α)) :
      Moved f (.multiPolygon polygons) (.multiPolygon (polygons.map (·.mapPlaces (Coord.mapX f))))
  | rect {lower upper : Coord α} (ordered : f lower.x ≤ f upper.x) :
      Moved f (.rect lower upper) (.rect (lower.mapX f) (upper.mapX f))
  | rectTurned {lower upper : Coord α} (turned : f upper.x ≤ f lower.x) :
      Moved f (.rect lower upper) (.rect ⟨f upper.x, lower.y⟩ ⟨f lower.x, upper.y⟩)
  | triangle {a b c : Coord α} (ordered : ¬ (a.mapX f).Clockwise (b.mapX f) (c.mapX f)) :
      Moved f (.triangle a b c) (.triangle (a.mapX f) (b.mapX f) (c.mapX f))
  | triangleTurned {a b c : Coord α} (turned : (a.mapX f).Clockwise (b.mapX f) (c.mapX f)) :
      Moved f (.triangle a b c) (.triangle (c.mapX f) (b.mapX f) (a.mapX f))
  | collection {members images : List (Shape α)} (moved : List.Forall₂ (Moved f) members images) :
      Moved f (.collection members) (.collection images)

variable [Scalar α] {f : α → α}

/-- The corners of a triangle are put in order when it is made. -/
theorem map_triangle_cases (a b c : Coord α) (f : α → α) :
    ¬ (a.mapX f).Clockwise (b.mapX f) (c.mapX f) ∧
        (triangle a b c).map (Coord.mapX f) = .triangle (a.mapX f) (b.mapX f) (c.mapX f) ∨
      (a.mapX f).Clockwise (b.mapX f) (c.mapX f) ∧
        (triangle a b c).map (Coord.mapX f) = .triangle (c.mapX f) (b.mapX f) (a.mapX f) := by
  by_cases h : (a.mapX f).Clockwise (b.mapX f) (c.mapX f)
  · exact .inr ⟨h, if_pos h⟩
  · exact .inl ⟨h, if_neg h⟩

variable [Exact α]

/-- A box with its corners in order stays as it is. -/
theorem box_of_le {a b : Coord α} (hx : a.x ≤ b.x) (hy : a.y ≤ b.y) : box a b = .rect a b := by
  have hpair {x y : α} (h : x ≤ y) : (if x < y then (x, y) else (y, x)) = (x, y) := by
    split
    · rfl
    · next hlt =>
      rw [lt_iff, not_lt] at hlt
      rw [real_injective (le_antisymm hlt ((le_iff _ _).mp h))]
  rw [box, Coord.corners, hpair hx, hpair hy]

/-- The sides of a box do not depend on which of the two is named first. -/
theorem box_swap_x {a b : Coord α} : box a b = box ⟨b.x, a.y⟩ ⟨a.x, b.y⟩ := by
  have hpair (x y : α) : (if x < y then (x, y) else (y, x)) = if y < x then (y, x) else (x, y) := by
    split
    · next h =>
      rw [if_neg]
      rw [lt_iff] at h ⊢
      exact lt_asymm h
    · next h =>
      split
      · rfl
      · next h' =>
        rw [lt_iff, not_lt] at h h'
        rw [real_injective (le_antisymm h h')]
  rw [box, box, Coord.corners, Coord.corners, hpair a.x b.x]

/-- Corners that go round clockwise do not do so the other way round. -/
theorem not_clockwise_swap {a b c : Coord α} (h : a.Clockwise b c) : ¬ c.Clockwise b a := by
  rw [Coord.Clockwise, lt_iff, real_zero] at h ⊢
  simp only [real_sub, real_mul] at h ⊢
  linarith

/-- The corners of a box are put in order when it is made. -/
theorem map_rect_cases {lower upper : Coord α} (upright : lower.y ≤ upper.y) (f : α → α) :
    f lower.x ≤ f upper.x ∧
        (rect lower upper).map (Coord.mapX f) = .rect (lower.mapX f) (upper.mapX f) ∨
      f upper.x ≤ f lower.x ∧
        (rect lower upper).map (Coord.mapX f) = .rect ⟨f upper.x, lower.y⟩ ⟨f lower.x, upper.y⟩ := by
  obtain h | h := le_total (real (f lower.x)) (real (f upper.x))
  · rw [← le_iff] at h
    exact .inl ⟨h, box_of_le h upright⟩
  · rw [← le_iff] at h
    refine .inr ⟨h, ?_⟩
    rw [map, box_swap_x]
    exact box_of_le h upright

/-- What is made of a shape's positions, each moved in its place, is the shape moved. -/
theorem Made.moved {s : Shape α} (made : s.Made) (f : α → α) : s.Moved f (s.map (Coord.mapX f)) := by
  have := lawfulBEq α
  induction made with
  | point c => exact .point c
  | line a b => exact .line a b
  | polyline path => exact .polyline path
  | @polygon p closed =>
    rw [map, Polygon.map_of_closed closed]
    exact .polygon p
  | multiPoint points => exact .multiPoint points
  | multiPolyline paths => exact .multiPolyline paths
  | @multiPolygon polygons closed =>
    rw [map, List.map_congr_left fun p hp => Polygon.map_of_closed (closed p hp) (Coord.mapX f)]
    exact .multiPolygon polygons
  | rect upright =>
    obtain ⟨hx, hmap⟩ | ⟨hx, hmap⟩ := map_rect_cases upright f
    · rw [hmap]
      exact .rect hx
    · rw [hmap]
      exact .rectTurned hx
  | triangle a b c =>
    obtain ⟨h, hmap⟩ | ⟨h, hmap⟩ := map_triangle_cases a b c f
    · rw [hmap]
      exact .triangle h
    · rw [hmap]
      exact .triangleTurned h
  | collection _ ih =>
    rw [map, mapEach_eq_map]
    refine .collection ?_
    rw [List.forall₂_map_right_iff, List.forall₂_same]
    exact ih

/-- A shape that was moved stays where it is when its eastings do. -/
theorem Made.map_map_mapX {s : Shape α} (made : s.Made) (idempotent : ∀ x, f (f x) = f x) :
    (s.map (Coord.mapX f)).map (Coord.mapX f) = s.map (Coord.mapX f) := by
  have := lawfulBEq α
  have hcomp : Coord.mapX f ∘ Coord.mapX f = Coord.mapX f := by
    funext c
    exact congrArg (Coord.mk · c.y) (idempotent c.x)
  have hself (c : Coord α) : (c.mapX f).mapX f = c.mapX f := congrFun hcomp c
  have hline (path : Polyline α) : (path.map (Coord.mapX f)).map (Coord.mapX f) = path.map (Coord.mapX f) := by
    rw [List.map_map, hcomp]
  induction made with
  | point c => exact congrArg Shape.point (hself c)
  | line a b => exact congrArg₂ Shape.line (hself a) (hself b)
  | polyline path => exact congrArg Shape.polyline (hline path)
  | polygon closed =>
    refine congrArg Shape.polygon ?_
    rw [Polygon.map_map closed, hcomp]
  | multiPoint points => exact congrArg Shape.multiPoint (hline points)
  | multiPolyline paths =>
    rw [map, map, List.map_map]
    exact congrArg Shape.multiPolyline (List.map_congr_left fun path _ => hline path)
  | multiPolygon closed =>
    rw [map, map, List.map_map]
    refine congrArg Shape.multiPolygon (List.map_congr_left fun p hp => ?_)
    rw [Function.comp_apply, Polygon.map_map (closed p hp), hcomp]
  | @rect lower upper upright =>
    obtain ⟨hx, hmap⟩ | ⟨hx, hmap⟩ := map_rect_cases upright f
    · rw [hmap, map, hself, hself]
      exact box_of_le hx upright
    · have hleft : Coord.mapX f ⟨f upper.x, lower.y⟩ = ⟨f upper.x, lower.y⟩ := hself ⟨upper.x, lower.y⟩
      have hright : Coord.mapX f ⟨f lower.x, upper.y⟩ = ⟨f lower.x, upper.y⟩ := hself ⟨lower.x, upper.y⟩
      rw [hmap, map, hleft, hright]
      exact box_of_le hx upright
  | triangle a b c =>
    obtain ⟨h, hmap⟩ | ⟨h, hmap⟩ := map_triangle_cases a b c f
    · rw [hmap, map, hself, hself, hself]
      exact if_neg h
    · rw [hmap, map, hself, hself, hself]
      exact if_neg (not_clockwise_swap h)
  | collection _ ih =>
    rw [map, map, mapEach_eq_map, mapEach_eq_map, List.map_map]
    exact congrArg Shape.collection (List.map_congr_left ih)

end Shape

end AreaOfInterest
