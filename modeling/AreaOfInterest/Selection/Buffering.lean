import AreaOfInterest.GeoJson.Convert
import AreaOfInterest.Geometry.Measure

/-!
# Buffering collections

The planar operations that selections need stand behind one interface, so that another way to compute
them can be put in. On top of it stand the rules for collections: validity never fails loudly, and a
buffer goes to the map and back for every feature and unites the results.
-/

namespace AreaOfInterest

/-- Planar operations on shapes. -/
structure PlanarOps (α : Type) where
  /-- Whether a shape is a valid simple polygon. -/
  isValid : Shape α → Bool
  /-- The outline of a shape at a distance in its own units, as polygons; none when a ring has no points. -/
  buffer? : Shape α → α → Option (List (Polygon α))
  /-- The union of two lists of polygons. -/
  union : List (Polygon α) → List (Polygon α) → List (Polygon α)

namespace PlanarOps

variable {α : Type} [Scalar α]

/-- The distance in metres that stands for a missing one, so that points and lines always gain an area. -/
def minBuffer : α := 1.0

/-- Whether a feature has a readable geometry that is a valid polygon. -/
def isValidFeature (ops : PlanarOps α) (f : Feature α) : Bool := f.toShape?.any ops.isValid

/-- Whether the first feature is a valid polygon. -/
def isValidPolygon (ops : PlanarOps α) (c : FeatureCollection α) : Bool := c.features.head?.any ops.isValidFeature

/-- Whether there are features and all of them are valid polygons. -/
def allValid (ops : PlanarOps α) (c : FeatureCollection α) : Bool :=
  !c.features.isEmpty && c.features.all ops.isValidFeature

/-- The distance that is used for a requested one. -/
def effectiveDistance (distance : α) : α := if distance == 0.0 ∨ Scalar.isNaN distance then minBuffer else distance

/-- A geographic shape buffered by a distance in metres; polygons stay as they are unless asked for. -/
def bufferShape? (ops : PlanarOps α) (shape : Shape α) (distance : α) (alsoPolygons : Bool) : Option (Shape α) :=
  if shape.isPolygonal && !alsoPolygons then some shape
  else
    (ops.buffer? (Mercator.projectShape shape) (effectiveDistance distance)).map fun polygons =>
      Mercator.unprojectShape (Shape.ofPolygons polygons)

/-- The buffers of the features with a readable geometry, as lists of polygons; none when one has no outline. -/
def bufferParts? (ops : PlanarOps α) (distance : α) (alsoPolygons : Bool) :
    List (Feature α) → Option (List (List (Polygon α)))
  | [] => some []
  | f :: rest =>
    match f.toShape? with
    | none => bufferParts? ops distance alsoPolygons rest
    | some shape => do
      let part ← ops.bufferShape? shape distance alsoPolygons
      let parts ← bufferParts? ops distance alsoPolygons rest
      return part.polygons :: parts

/-- The union of several lists of polygons, from left to right; a single one stays as it is. -/
def unionAll (ops : PlanarOps α) : List (List (Polygon α)) → List (Polygon α)
  | [] => []
  | part :: parts => parts.foldl ops.union part

/-- Buffers every feature and unites the results into a collection of one bare feature. Features without a
readable geometry are passed over. -/
def bufferFeatures (ops : PlanarOps α) (c : FeatureCollection α) (distance : α) (alsoPolygons : Bool) :
    Except (Failure α) (FeatureCollection α) :=
  match ops.bufferParts? distance alsoPolygons c.features with
  | none => .error .emptyRing
  | some parts =>
    match ops.unionAll parts with
    | [] => .error .emptyBuffer
    | polygons => .ok (.single (.ofGeometry (.ofShape (.ofPolygons polygons))))

end PlanarOps

end AreaOfInterest
