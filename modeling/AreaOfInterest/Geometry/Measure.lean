import AreaOfInterest.Geometry.Shape

/-!
# Areas

The planar area of a shape, and its area on the ground in square kilometres. The second one is a sum
over polygons of a measure that belongs to the scalar type, so that the rules about selections do
not depend on how the earth's surface is computed.
-/

namespace AreaOfInterest

/-- The area of polygons on the ground. -/
class Surface (α : Type) where
  /-- Area in square metres of a polygon given in degrees. -/
  squareMetres : Polygon α → α

namespace Polyline

variable {α : Type} [Scalar α]

/-- Twice the signed area of a closed line, relative to its first point; zero for one that is open or short. -/
def doubleArea (path : Polyline α) : α :=
  match path with
  | first :: _ :: _ :: _ =>
    if isClosed path then
      (segments path).foldl (fun total (a, b) =>
        total + ((a.x - first.x) * (b.y - first.y) - (a.y - first.y) * (b.x - first.x))) 0.0
    else 0.0
  | _ => 0.0

/-- Signed area of a closed line, positive when it runs counter-clockwise. -/
def signedArea (path : Polyline α) : α := doubleArea path / 2.0

end Polyline

namespace Polygon

variable {α : Type} [Scalar α]

/-- Size of the exterior's area less the sizes of the holes' areas, as a size. -/
def area (p : Polygon α) : α :=
  Scalar.abs (p.interiors.foldl (fun total ring => total - Scalar.abs ring.signedArea)
    (Scalar.abs p.exterior.signedArea))

end Polygon

namespace Shape

variable {α : Type} [Scalar α]

mutual

/-- Planar area; points and lines have none. -/
def area : Shape α → α
  | polygon p => p.area
  | multiPolygon polygons => polygons.foldl (fun total p => total + p.area) 0.0
  | rect lower upper => Scalar.abs ((upper.x - lower.x) * (upper.y - lower.y))
  | triangle a b c => (trianglePolygon a b c).area
  | collection members => areaOfEach 0.0 members
  | _ => 0.0

/-- A running total of planar areas. -/
def areaOfEach (total : α) : List (Shape α) → α
  | [] => total
  | shape :: rest => areaOfEach (total + area shape) rest

end

/-- Whether the shape covers some area. -/
def hasArea (shape : Shape α) : Bool := shape.area > 0.0

mutual

/-- Area on the ground in square kilometres; points and lines have none. -/
def areaSqKm [Surface α] : Shape α → α
  | polygon p => Surface.squareMetres p / 1000000.0
  | multiPolygon polygons => Scalar.sum (polygons.map Surface.squareMetres) / 1000000.0
  | rect lower upper => Surface.squareMetres (rectPolygon lower upper) / 1000000.0
  | triangle a b c => Surface.squareMetres (trianglePolygon a b c) / 1000000.0
  | collection members => areaSqKmOfEach (-0.0) members * 1000000.0 / 1000000.0
  | _ => 0.0 / 1000000.0

/-- A running total of areas on the ground. -/
def areaSqKmOfEach [Surface α] (total : α) : List (Shape α) → α
  | [] => total
  | shape :: rest => areaSqKmOfEach (total + areaSqKm shape) rest

end

end Shape

end AreaOfInterest
