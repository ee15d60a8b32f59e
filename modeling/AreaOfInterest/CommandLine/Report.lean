import AreaOfInterest.Selection.Session
import AreaOfInterest.Settings

/-!
# Reports on collections

What the commands find out about a collection: whether it may be exported, how large its features are, where it
lies, and what it looks like with a buffer. Each of them asks the same questions as the editor does.
-/

namespace AreaOfInterest

/-- What there is to say about the validity of a collection. -/
structure ValidityReport (α : Type) where
  count : Nat
  kind : Option GeometryKind
  isValid : Bool
  isAcceptable : Bool
  /-- The largest acceptable area in square kilometres, if any. -/
  maxArea : Option α

namespace FeatureCollection

variable {α : Type} [Scalar α]

/-- Whether the features are valid polygons and may be exported. -/
def validityReport [Surface α] (ops : PlanarOps α) (settings : EditorSettings α) (c : FeatureCollection α) :
    ValidityReport α :=
  { count := c.features.length
    kind := c.dominantKind?
    isValid := ops.allValid c
    isAcceptable := Session.isAcceptable c settings.maxArea
    maxArea := settings.maxArea }

/-- The shapes of geometries up to the first one that cannot be read. -/
def readableShapes : List (Geometry α) → List (Shape α)
  | [] => []
  | g :: rest =>
    match g.toShape? with
    | none => []
    | some shape => shape :: readableShapes rest

/-- The areas in square kilometres of the geometries up to the first one that cannot be read. -/
def areasSqKm [Surface α] (c : FeatureCollection α) : List α := (readableShapes c.geometries).map Shape.areaSqKm

/-- The extent on the map of all geometries that have one. -/
def projectedExtent (c : FeatureCollection α) : Except (Failure α) (Option (Extent α)) := do
  let shapes ← c.geometries.mapM Geometry.toShape
  return Extent.hull? (shapes.filterMap fun shape => Extent.ofShape? (Mercator.projectShape shape))

/-- The collection as it is after importing it under a name and buffering it, held to the limits of the settings. -/
def buffered (ops : PlanarOps α) (settings : EditorSettings α) (name : String) (distance : α)
    (c : FeatureCollection α) : Except (Failure α) (FeatureCollection α) :=
  let session := ((Session.new ops).withLimits settings.maxBuffer settings.maxArea).selectImport c name
  (session.applyBuffer distance).2

end FeatureCollection

/-- The lines of a validity report under the name of its file. -/
def ValidityReport.text (name : String) (r : ValidityReport Float) : String :=
  let answer (b : Bool) : String := if b then "yes" else "no"
  name ++ "\n  Features: " ++ toString r.count ++ "\n" ++
    ((r.kind.map fun kind => "  Geometry: " ++ kind.name ++ "\n").getD "") ++
    "  Valid polygon(s): " ++ answer r.isValid ++ "\n  Acceptable AOI: " ++ answer r.isAcceptable ++ "\n" ++
    ((r.maxArea.map fun limit => "  Area limit: " ++ Decimal.fixedText 1 limit ++ " km²\n").getD "")

/-- The lines of some areas, each with the place of its feature. -/
def areaLines (areas : List Float) : String :=
  String.join (areas.zipIdx.map fun (area, i) =>
    "  Feature " ++ toString i ++ ": " ++ Decimal.fixedText 3 area ++ " km²\n")

/-- The line of the sum of some areas. -/
def totalLine (areas : List Float) : String :=
  "Total: " ++ Decimal.fixedText 3 (areas.foldl (· + ·) 0.0) ++ " km²\n"

/-- The line of a geographic box. -/
def boxLine (box : List Float) : String := "[" ++ String.intercalate ", " (box.map Decimal.plainText) ++ "]\n"

end AreaOfInterest
