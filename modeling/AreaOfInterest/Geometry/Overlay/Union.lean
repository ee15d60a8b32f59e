import AreaOfInterest.Geometry.Overlay.Grid
import AreaOfInterest.Geometry.Overlay.Region

/-!
# Unions of polygons

The union of two lists of polygons, each read by the even-odd rule: a point is inside when it is
enclosed an odd number of times. Exteriors run counter-clockwise and holes clockwise.
-/

namespace AreaOfInterest.Overlay

open AreaOfInterest.Lattice

/-- The polygons of a region on a grid. -/
def restore (grid : Grid) (parts : List Part) : List (Polygon Float) :=
  parts.map fun p => .ofRings (p.exterior.map grid.restore) (p.holes.map (·.map grid.restore))

/-- The region on a grid where a rule on the winding numbers of several layers of closed lines holds. -/
def region (grid : Grid) (layers : List (List (Polyline Float))) (inside : Winding → Bool) : List (Polygon Float) :=
  restore grid (overlay (layers.map (·.map (·.map grid.snap))) inside)

/-- The points that lie in one of two lists of polygons. -/
def union (a b : List (Polygon Float)) : List (Polygon Float) :=
  let a := a.flatMap (·.rings)
  let b := b.flatMap (·.rings)
  region (Grid.around (a ++ b).flatten) [a, b] (·.any (· % 2 ≠ 0))

end AreaOfInterest.Overlay
