import AreaOfInterest.GeoJson.Model
import AreaOfInterest.Failure
import AreaOfInterest.Geometry.Extent

/-!
# Geometries and shapes

A geometry becomes a shape by keeping the first two ordinates of every position and closing its rings.
The first position with fewer than two ordinates refuses it. The way back writes lines, boxes and
triangles as line strings and polygons.
-/

namespace AreaOfInterest

variable {α : Type}

/-- The coordinates of a position. -/
def Position.toCoord : Position α → Except (Failure α) (Coord α)
  | x :: y :: _ => .ok ⟨x, y⟩
  | position => .error (.invalidPosition position.length)

/-- The coordinates of several positions. -/
def Position.toPolyline (positions : List (Position α)) : Except (Failure α) (Polyline α) :=
  positions.mapM Position.toCoord

/-- The polygon of its rings, the first of them the exterior; without rings the empty one. -/
def Position.toPolygon [BEq α] : List (List (Position α)) → Except (Failure α) (Polygon α)
  | [] => .ok (.ofRings [] [])
  | exterior :: interiors => do
    let exterior ← toPolyline exterior
    let interiors ← interiors.mapM toPolyline
    return .ofRings exterior interiors

mutual

/-- The shape of a geometry. -/
def Geometry.toShape [BEq α] : Geometry α → Except (Failure α) (Shape α)
  | .point p => do return .point (← Position.toCoord p)
  | .multiPoint ps => do return .multiPoint (← Position.toPolyline ps)
  | .lineString ps => do return .polyline (← Position.toPolyline ps)
  | .multiLineString ls => do return .multiPolyline (← ls.mapM Position.toPolyline)
  | .polygon rs => do return .polygon (← Position.toPolygon rs)
  | .multiPolygon ps => do return .multiPolygon (← ps.mapM Position.toPolygon)
  | .collection members => do return .collection (← eachToShape members)

/-- The shapes of several geometries. -/
def Geometry.eachToShape [BEq α] : List (Geometry α) → Except (Failure α) (List (Shape α))
  | [] => .ok []
  | g :: rest => do
    let shape ← toShape g
    let shapes ← eachToShape rest
    return shape :: shapes

end

/-- The position of a coordinate pair. -/
def Coord.toPosition (c : Coord α) : Position α := [c.x, c.y]

/-- The positions of a line. -/
def Polyline.toPositions (path : Polyline α) : List (Position α) := path.map Coord.toPosition

/-- The rings of a polygon as positions. -/
def Polygon.toPositions (p : Polygon α) : List (List (Position α)) := p.rings.map Polyline.toPositions

mutual

/-- The geometry of a shape. -/
def Geometry.ofShape [BEq α] : Shape α → Geometry α
  | .point c => .point c.toPosition
  | .line a b => .lineString [a.toPosition, b.toPosition]
  | .polyline path => .lineString path.toPositions
  | .polygon p => .polygon p.toPositions
  | .multiPoint points => .multiPoint (points.map Coord.toPosition)
  | .multiPolyline paths => .multiLineString (paths.map Polyline.toPositions)
  | .multiPolygon polygons => .multiPolygon (polygons.map Polygon.toPositions)
  | .rect lower upper => .polygon (Shape.rectPolygon lower upper).toPositions
  | .triangle a b c => .polygon (Shape.trianglePolygon a b c).toPositions
  | .collection members => .collection (eachOfShape members)

/-- The geometries of several shapes. -/
def Geometry.eachOfShape [BEq α] : List (Shape α) → List (Geometry α)
  | [] => []
  | shape :: rest => ofShape shape :: eachOfShape rest

end

/-- The shape of a geometry that has one. -/
def Geometry.toShape? [BEq α] (g : Geometry α) : Option (Shape α) := g.toShape.toOption

/-- The shape of a feature that has a readable geometry. -/
def Feature.toShape? [BEq α] (f : Feature α) : Option (Shape α) := f.geometry.bind Geometry.toShape?

namespace FeatureCollection

variable [Scalar α]

/-- A drawing on the map as a collection of one feature in degrees, its positions and its bounding box
rounded to five places. -/
def ofProjected (shape : Shape α) : FeatureCollection α :=
  let geographic := (Mercator.unprojectShape shape).map Mercator.truncateCoord
  single { Feature.ofGeometry (Geometry.ofShape geographic) with
    bbox := (Extent.ofShape? shape).map Extent.serialize }

/-- The shapes of the features on the map; features without a readable geometry are left out. -/
def toProjected (c : FeatureCollection α) : List (Shape α) :=
  c.geometries.filterMap fun g => g.toShape?.map Mercator.projectShape

end FeatureCollection

end AreaOfInterest
