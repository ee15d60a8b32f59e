import AreaOfInterest.Map.Viewport

/-!
# Editing rings by their vertices

Picking a vertex near the pointer and dragging it. A ring that runs around a box stays one: the corners
that share an axis with the dragged corner move along. Every other ring moves the picked vertex only. A
move that would leave the ring without area is refused.
-/

namespace AreaOfInterest

/-- A vertex that is being dragged. -/
structure VertexDrag (α : Type) where
  /-- Place of the shape on the layer. -/
  feature : Nat
  /-- Place of the polygon within the shape. -/
  polygon : Nat
  /-- Place of the vertex within the exterior ring. -/
  vertex : Nat
  /-- Where the vertex was after the last accepted move. -/
  coordinate : Coord α
  deriving BEq, DecidableEq, Repr

namespace Ring

variable {α : Type} [Scalar α]

/-- Pick radius around a vertex in pixels unless set otherwise. -/
def defaultTolerance : α := 10.0

/-- Corners of a box closer than this on an axis share the axis. -/
def cornerEpsilon : α := 0.000001

/-- Whether `a` is sorted before `b` or alike: by x, then by y. -/
def sortsBefore (a b : Coord α) : Bool :=
  if !Scalar.sortsBefore b.x a.x then true
  else if !Scalar.sortsBefore a.x b.x then false
  else Scalar.sortsBefore a.y b.y

/-- A sorted list with one more position in its place. -/
def insertSorted (c : Coord α) : List (Coord α) → List (Coord α)
  | [] => [c]
  | d :: rest => if sortsBefore c d then c :: d :: rest else d :: insertSorted c rest

/-- Positions in sorted order. -/
def sorted : List (Coord α) → List (Coord α)
  | [] => []
  | c :: rest => insertSorted c (sorted rest)

/-- Whether a ring has five points, the first four of which are, in any order, the corners of its extent. -/
def isBox (ring : Polyline α) : Bool :=
  match Extent.ofCoords? ring with
  | some e => ring.length == 5 && sorted (ring.take 4) == sorted (e.ring.take 4)
  | none => false

/-- Whether a position is within `tolerance` whole pixels of `pixel` on both axes. -/
def isHit (pixel : Coord α) (tolerance : α) (v : Viewport α) (c : Coord α) : Bool :=
  let shown := v.pixelOf c
  let dx := Scalar.abs (Scalar.round pixel.x - Scalar.round shown.x)
  let dy := Scalar.abs (Scalar.round pixel.y - Scalar.round shown.y)
  dx ≤ tolerance && dy ≤ tolerance

/-- The first vertex of a ring that is hit, with its place. -/
def findVertex? (pixel : Coord α) (tolerance : α) (v : Viewport α) (ring : Polyline α) : Option (Nat × Coord α) :=
  (ring.findIdx? (isHit pixel tolerance v)).bind fun i => ring[i]?.map fun c => (i, c)

/-- Whether two values on an axis count as the same. -/
def close (a b : α) : Bool := Scalar.abs (a - b) ≤ cornerEpsilon

/-- A corner of a box after the corner `origin` was dragged to `target`. -/
def moveCorner (origin target c : Coord α) : Coord α :=
  ⟨if close c.x origin.x then target.x else c.x, if close c.y origin.y then target.y else c.y⟩

/-- A ring with its `i`-th point replaced; the two ends of a closed ring count as one point. -/
def moveVertex (ring : Polyline α) (i : Nat) (target : Coord α) : Polyline α :=
  let last := ring.length - 1
  if ring.isClosed && (i == 0 || i == last) then (ring.set 0 target).set last target else ring.set i target

/-- The ring after its dragged vertex was moved to `target`; none when it would have no area. -/
def drag? (ring : Polyline α) (drag : VertexDrag α) (target : Coord α) : Option (Polyline α) :=
  let moved := if isBox ring then ring.map (moveCorner drag.coordinate target) else moveVertex ring drag.vertex target
  match Extent.ofCoords? moved with
  | some e => if e.isDegenerate then none else some moved
  | none => none

end Ring

end AreaOfInterest
