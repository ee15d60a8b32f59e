import AreaOfInterest.Geometry.Extent

/-!
# Wrapping around the antimeridian

The map repeats the world from left to right, so a position can lie whole worlds away from the valid
extent of the projection. Unwrapping shifts it back by whole worlds; positions inside, the two edges
included, stay as they are.
-/

namespace AreaOfInterest.Wrap

variable {α : Type} [Scalar α]

/-- Number of whole worlds by which `x` is shifted to come inside. -/
def worldsAway (x : α) (projection : Extent α) : α :=
  Scalar.ceil ((projection.minX - x) / projection.width)

/-- Whether `x` lies left or right of the projection. -/
def isOutside (x : α) (projection : Extent α) : Bool := x < projection.minX || x > projection.maxX

/-- `x` shifted back by whole worlds. The shifted value is kept within the edges, because rounding can
leave it a little past one of them. -/
def unwrapX (x : α) (projection : Extent α) : α :=
  if isOutside x projection then
    Scalar.clamp projection.minX projection.maxX (x + projection.width * worldsAway x projection)
  else x

/-- A position shifted back by whole worlds. -/
def unwrapCoord (projection : Extent α) (c : Coord α) : Coord α := ⟨unwrapX c.x projection, c.y⟩

/-- Every position of every ring shifted back. -/
def unwrapRings (rings : List (Polyline α)) (projection : Extent α) : List (Polyline α) :=
  rings.map (·.map (unwrapCoord projection))

/-- Every position of a shape shifted back. -/
def unwrapShape (shape : Shape α) (projection : Extent α) : Shape α := shape.map (unwrapCoord projection)

/-- The two vertical edges of an extent shifted back, each on its own. They can come back from
different worlds, so the result may have its edges crossed. -/
def unwrapExtent (e projection : Extent α) : Extent α :=
  { e with minX := unwrapX e.minX projection, maxX := unwrapX e.maxX projection }

/-- Whether `x` can be unwrapped: it needs no shift, or the edges of the projection are in order. -/
def admits (projection : Extent α) (x : α) : Bool :=
  !isOutside x projection || projection.minX ≤ projection.maxX

/-- Whether every position can be unwrapped. -/
def admitsAll (projection : Extent α) (coords : List (Coord α)) : Bool :=
  coords.all fun c => admits projection c.x

end AreaOfInterest.Wrap
