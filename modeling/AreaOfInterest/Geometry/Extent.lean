import AreaOfInterest.Geometry.Mercator

/-!
# Extents

Axis-aligned boxes, in degrees or in projected metres as the caller means them. An extent grows by
coordinates and by other extents; a projected one is written as a geographic box of four numbers
and read back from it.
-/

namespace AreaOfInterest

/-- An axis-aligned box. -/
structure Extent (α : Type) where
  minX : α
  minY : α
  maxX : α
  maxY : α
  deriving BEq, DecidableEq, Repr, Inhabited

namespace Extent

variable {α : Type} [Scalar α]

/-- The box that holds one position only. -/
def ofCoord (c : Coord α) : Extent α := ⟨c.x, c.y, c.x, c.y⟩

/-- The box grown to hold a position. -/
def insert (e : Extent α) (c : Coord α) : Extent α :=
  ⟨min e.minX c.x, min e.minY c.y, max e.maxX c.x, max e.maxY c.y⟩

/-- The box grown to hold another box. -/
def extend (e other : Extent α) : Extent α :=
  ⟨min e.minX other.minX, min e.minY other.minY, max e.maxX other.maxX, max e.maxY other.maxY⟩

/-- The box around some positions; none for no position. -/
def ofCoords? : List (Coord α) → Option (Extent α)
  | [] => none
  | c :: rest => some (rest.foldl insert (ofCoord c))

/-- The box around several boxes; none for no box. -/
def hull? : List (Extent α) → Option (Extent α)
  | [] => none
  | e :: rest => some (rest.foldl extend e)

/-- Horizontal size. -/
def width (e : Extent α) : α := e.maxX - e.minX

/-- Vertical size. -/
def height (e : Extent α) : α := e.maxY - e.minY

/-- Midpoint. -/
def center (e : Extent α) : Coord α := ⟨(e.minX + e.maxX) / 2.0, (e.minY + e.maxY) / 2.0⟩

/-- Whether the box has no area: its limits agree on an axis. -/
def isDegenerate (e : Extent α) : Bool := e.minX == e.maxX || e.minY == e.maxY

/-- The closed ring around the box: lower left, upper left, upper right, lower right and back. -/
def ring (e : Extent α) : Polyline α :=
  [⟨e.minX, e.minY⟩, ⟨e.minX, e.maxY⟩, ⟨e.maxX, e.maxY⟩, ⟨e.maxX, e.minY⟩, ⟨e.minX, e.minY⟩]

/-- The polygon bounded by the box's ring. -/
def polygon (e : Extent α) : Polygon α := .ofRings e.ring []

/-- The square of the whole projected world. -/
def world : Extent α :=
  ⟨-Mercator.halfWorld, -Mercator.halfWorld, Mercator.halfWorld, Mercator.halfWorld⟩

/-- A projected box as `[west, south, east, north]` in degrees, longitudes kept within one turn and
every value rounded to five places. -/
def serialize (e : Extent α) : List α :=
  let lower := Mercator.clampLongitude (Mercator.unproject ⟨e.minX, e.minY⟩)
  let upper := Mercator.clampLongitude (Mercator.unproject ⟨e.maxX, e.maxY⟩)
  [lower.x, lower.y, upper.x, upper.y].map Mercator.truncate

/-- The projected box of `[west, south, east, north]`; other numbers of values are refused. -/
def deserialize? : List α → Option (Extent α)
  | [west, south, east, north] =>
    let lower := Mercator.project ⟨west, south⟩
    let upper := Mercator.project ⟨east, north⟩
    some ⟨lower.x, lower.y, upper.x, upper.y⟩
  | _ => none

/-- One step of a running minimum and maximum. A value moves one limit at most, so a NaN seen first stays. -/
def widenRange (range : α × α) (value : α) : α × α :=
  if value > range.2 then (range.1, value) else if value < range.1 then (value, range.2) else range

/-- The bounding rectangle of some positions; none for no position. -/
def bounding? : List (Coord α) → Option (Extent α)
  | [] => none
  | c :: rest =>
    let xs := (rest.map (·.x)).foldl widenRange (c.x, c.x)
    let ys := (rest.map (·.y)).foldl widenRange (c.y, c.y)
    some ⟨xs.1, ys.1, xs.2, ys.2⟩

/-- The rectangle that covers two rectangles. -/
def cover (a b : Extent α) : Extent α :=
  ⟨if a.minX < b.minX then a.minX else b.minX, if a.minY < b.minY then a.minY else b.minY,
    if a.maxX > b.maxX then a.maxX else b.maxX, if a.maxY > b.maxY then a.maxY else b.maxY⟩

/-- The cover of two optional rectangles. -/
def cover? : Option (Extent α) → Option (Extent α) → Option (Extent α)
  | some a, some b => some (cover a b)
  | some a, none => some a
  | none, b => b

mutual

/-- The bounding rectangle of a shape, holes left out; none for a shape without positions. -/
def ofShape? : Shape α → Option (Extent α)
  | .point c => some (ofCoord c)
  | .line a b => let (lower, upper) := Coord.corners a b; some ⟨lower.x, lower.y, upper.x, upper.y⟩
  | .polyline path => bounding? path
  | .polygon p => bounding? p.exterior
  | .multiPoint points => bounding? points
  | .multiPolyline paths => bounding? paths.flatten
  | .multiPolygon polygons => bounding? (polygons.flatMap (·.exterior))
  | .rect lower upper => some ⟨lower.x, lower.y, upper.x, upper.y⟩
  | .triangle a b c => bounding? [a, b, c]
  | .collection members => ofEach? none members

/-- The rectangle grown by the bounding rectangles of several shapes. -/
def ofEach? (acc : Option (Extent α)) : List (Shape α) → Option (Extent α)
  | [] => acc
  | shape :: rest => ofEach? (cover? acc (ofShape? shape)) rest

end

end Extent

end AreaOfInterest
