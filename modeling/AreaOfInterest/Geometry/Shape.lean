import AreaOfInterest.Scalar

/-!
# Planar shapes

Points, lines and polygons over coordinates of one scalar type. A polygon's rings are closed when it
is made: the first point is repeated at the end unless the ring already ends where it starts. Every
map over coordinates goes through the same construction, so closedness is kept even when the map
does not send equal points to equal points.
-/

namespace AreaOfInterest

/-- A position in the plane. -/
structure Coord (α : Type) where
  x : α
  y : α
  deriving BEq, DecidableEq, Repr, Inhabited

/-- The lower and the upper corner of the box with the given opposite corners. -/
def Coord.corners {α : Type} [LT α] [DecidableLT α] (a b : Coord α) : Coord α × Coord α :=
  let xs := if a.x < b.x then (a.x, b.x) else (b.x, a.x)
  let ys := if a.y < b.y then (a.y, b.y) else (b.y, a.y)
  (⟨xs.1, ys.1⟩, ⟨xs.2, ys.2⟩)

/-- A sequence of positions joined by straight segments. -/
abbrev Polyline (α : Type) := List (Coord α)

/-- An exterior ring and the rings of its holes. -/
structure Polygon (α : Type) where
  exterior : Polyline α
  interiors : List (Polyline α)
  deriving BEq, DecidableEq, Repr, Inhabited

/-- The shapes that the map handles. -/
inductive Shape (α : Type) where
  | point (position : Coord α)
  | line (start finish : Coord α)
  | polyline (path : Polyline α)
  | polygon (polygon : Polygon α)
  | multiPoint (points : List (Coord α))
  | multiPolyline (paths : List (Polyline α))
  | multiPolygon (polygons : List (Polygon α))
  /-- A box given by its lower and its upper corner. -/
  | rect (lower upper : Coord α)
  /-- A triangle given by its corners, counter-clockwise. -/
  | triangle (a b c : Coord α)
  | collection (members : List (Shape α))

namespace Polyline

variable {α : Type}

/-- The first point is also the last one; so is the absent point of an empty line. -/
def isClosed [BEq α] (path : Polyline α) : Bool := path.head? == path.getLast?

/-- Repeats the first point at the end of a line that is not closed. -/
def close [BEq α] (path : Polyline α) : Polyline α :=
  if isClosed path then path else path ++ path.head?.toList

/-- The segments between neighbouring points. -/
def segments (path : Polyline α) : List (Coord α × Coord α) := path.zip path.tail

end Polyline

namespace Polygon

variable {α β : Type}

/-- The polygon with the given rings, closed. -/
def ofRings [BEq α] (exterior : Polyline α) (interiors : List (Polyline α)) : Polygon α :=
  ⟨Polyline.close exterior, interiors.map Polyline.close⟩

/-- Every ring, the exterior first. -/
def rings (p : Polygon α) : List (Polyline α) := p.exterior :: p.interiors

/-- The polygon whose positions are the images of `p`'s. -/
def map [BEq β] (f : Coord α → Coord β) (p : Polygon α) : Polygon β :=
  ofRings (p.exterior.map f) (p.interiors.map (·.map f))

/-- The polygon with another exterior ring. -/
def withExterior [BEq α] (p : Polygon α) (ring : Polyline α) : Polygon α :=
  ⟨Polyline.close ring, p.interiors⟩

end Polygon

namespace Shape

variable {α β : Type}

/-- The box with the given opposite corners, in any order. -/
def box [LT α] [DecidableLT α] (a b : Coord α) : Shape α :=
  let (lower, upper) := Coord.corners a b
  .rect lower upper

/-- The triangle with the given corners, put into counter-clockwise order. -/
def ofCorners [Scalar α] (a b c : Coord α) : Shape α :=
  if (b.x - a.x) * (c.y - a.y) - (b.y - a.y) * (c.x - a.x) < 0.0 then .triangle c b a else .triangle a b c

/-- The outline of a box: lower right, upper right, upper left, lower left and back. -/
def rectPolygon [BEq α] (lower upper : Coord α) : Polygon α :=
  .ofRings [⟨upper.x, lower.y⟩, upper, ⟨lower.x, upper.y⟩, lower, ⟨upper.x, lower.y⟩] []

/-- The outline of a triangle. -/
def trianglePolygon [BEq α] (a b c : Coord α) : Polygon α := .ofRings [a, b, c, a] []

mutual

/-- The shape whose positions are the images of a shape's positions. -/
def map [Scalar β] (f : Coord α → Coord β) : Shape α → Shape β
  | point c => point (f c)
  | line a b => line (f a) (f b)
  | polyline path => polyline (path.map f)
  | polygon p => polygon (p.map f)
  | multiPoint points => multiPoint (points.map f)
  | multiPolyline paths => multiPolyline (paths.map (·.map f))
  | multiPolygon polygons => multiPolygon (polygons.map (·.map f))
  | rect lower upper => box (f lower) (f upper)
  | triangle a b c => ofCorners (f a) (f b) (f c)
  | collection members => collection (mapEach f members)

/-- The images of several shapes. -/
def mapEach [Scalar β] (f : Coord α → Coord β) : List (Shape α) → List (Shape β)
  | [] => []
  | shape :: rest => map f shape :: mapEach f rest

end

mutual

/-- Every position of a shape in order, closing points and holes included. -/
def coords [BEq α] : Shape α → List (Coord α)
  | point c => [c]
  | line a b => [a, b]
  | polyline path => path
  | polygon p => p.rings.flatten
  | multiPoint points => points
  | multiPolyline paths => paths.flatten
  | multiPolygon polygons => polygons.flatMap (·.rings.flatten)
  | rect lower upper => (rectPolygon lower upper).exterior
  | triangle a b c => (trianglePolygon a b c).exterior
  | collection members => coordsOfEach members

/-- Every position of several shapes in order. -/
def coordsOfEach [BEq α] : List (Shape α) → List (Coord α)
  | [] => []
  | shape :: rest => coords shape ++ coordsOfEach rest

end

mutual

/-- Numeric equality of shapes of the same kind. -/
def equal [BEq α] : Shape α → Shape α → Bool
  | point a, point b => a == b
  | line a b, line c d => a == c && b == d
  | polyline p, polyline q => p == q
  | polygon p, polygon q => p == q
  | multiPoint p, multiPoint q => p == q
  | multiPolyline p, multiPolyline q => p == q
  | multiPolygon p, multiPolygon q => p == q
  | rect a b, rect c d => a == c && b == d
  | triangle a b c, triangle d e f => a == d && b == e && c == f
  | collection p, collection q => equalEach p q
  | _, _ => false

/-- Numeric equality of shapes, one by one. -/
def equalEach [BEq α] : List (Shape α) → List (Shape α) → Bool
  | [], [] => true
  | p :: ps, q :: qs => equal p q && equalEach ps qs
  | _, _ => false

end

instance [BEq α] : BEq (Shape α) := ⟨equal⟩

/-- The polygons of a polygonal shape; other shapes have none. -/
def polygons : Shape α → List (Polygon α)
  | polygon p => [p]
  | multiPolygon ps => ps
  | _ => []

/-- Whether the shape is a polygon or a multipolygon. -/
def isPolygonal : Shape α → Bool
  | polygon _ | multiPolygon _ => true
  | _ => false

/-- The single polygon of a one-part list, else the multipolygon. -/
def ofPolygons : List (Polygon α) → Shape α
  | [p] => polygon p
  | ps => multiPolygon ps

end Shape

end AreaOfInterest
