import AreaOfInterest.Geometry.Extent
import AreaOfInterest.Geometry.Lattice

/-!
# A lattice over a region

Unions and outlines are taken on whole coordinates. The grid chosen for some positions is centred on
their box and so fine that the larger side spans about a thousand million units.
-/

namespace AreaOfInterest

open AreaOfInterest.Lattice

/-- A lattice with its origin at `centre` and `scale` units to one unit of length. -/
structure Grid where
  centre : Coord Float
  scale : Float

namespace Grid

/-- The grid that fits some positions. -/
def around (coords : List (Coord Float)) : Grid :=
  match Extent.bounding? coords with
  | none => ⟨⟨0.0, 0.0⟩, 1.0⟩
  | some box =>
    let a := box.width * 0.5
    let b := box.height * 0.5
    let centre : Coord Float := ⟨box.minX + a, box.minY + b⟩
    let reach := max a b
    if reach == 0.0 then ⟨centre, 1.0⟩
    else ⟨centre, Float.scaleB 1.0 (29 - reach.log2.round.toInt32.toInt)⟩

/-- The lattice point nearest to a position. -/
def snap (g : Grid) (c : Coord Float) : Point :=
  ⟨(Float.round ((c.x - g.centre.x) * g.scale)).toInt64.toInt, (Float.round ((c.y - g.centre.y) * g.scale)).toInt64.toInt⟩

/-- The position of a lattice point. -/
def restore (g : Grid) (p : Point) : Coord Float :=
  ⟨Float.ofInt p.x / g.scale + g.centre.x, Float.ofInt p.y / g.scale + g.centre.y⟩

end Grid

end AreaOfInterest
