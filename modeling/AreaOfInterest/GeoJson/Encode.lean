import AreaOfInterest.GeoJson.Model

/-!
# GeoJSON documents as JSON

Members are written in the order of the format's description; a missing identifier or bounding box is
left out, a missing geometry or properties object is null.
-/

namespace AreaOfInterest

open Json

/-- The ordinates of a position. -/
def Position.toJson (position : Position Float) : Json := .array (position.map ofFloat)

/-- Several positions. -/
def Position.lineToJson (line : List (Position Float)) : Json := .array (line.map Position.toJson)

/-- Several lines of positions. -/
def Position.ringsToJson (rings : List (List (Position Float))) : Json := .array (rings.map Position.lineToJson)

/-- The payload of a geometry that is not a collection, under its kind's name. -/
def Geometry.typed (kind : GeometryKind) (key : String) (payload : Json) : Json :=
  .object [("type", .string kind.name), (key, payload)]

mutual

/-- A geometry as JSON. -/
def Geometry.toJson : Geometry Float → Json
  | .point p => typed .point "coordinates" (Position.toJson p)
  | .multiPoint ps => typed .multiPoint "coordinates" (Position.lineToJson ps)
  | .lineString ps => typed .lineString "coordinates" (Position.lineToJson ps)
  | .multiLineString ls => typed .multiLineString "coordinates" (Position.ringsToJson ls)
  | .polygon rs => typed .polygon "coordinates" (Position.ringsToJson rs)
  | .multiPolygon ps => typed .multiPolygon "coordinates" (.array (ps.map Position.ringsToJson))
  | .collection members => typed .geometryCollection "geometries" (.array (eachToJson members))

/-- Several geometries as JSON. -/
def Geometry.eachToJson : List (Geometry Float) → List Json
  | [] => []
  | g :: rest => toJson g :: eachToJson rest

end

/-- A member that is written only when it has a value. -/
def optionalMember (key : String) (value : Option Json) : List (String × Json) :=
  value.toList.map fun v => (key, v)

/-- A feature as JSON. -/
def Feature.toJson (f : Feature Float) : Json :=
  .object (("type", .string "Feature") :: optionalMember "id" f.id ++
    optionalMember "bbox" (f.bbox.map Position.toJson) ++
    [("geometry", (f.geometry.map Geometry.toJson).getD .null),
     ("properties", (f.properties.map Json.object).getD .null)])

/-- A feature collection as JSON. -/
def FeatureCollection.toJson (c : FeatureCollection Float) : Json :=
  .object (("type", .string "FeatureCollection") :: optionalMember "bbox" (c.bbox.map Position.toJson) ++
    [("features", .array (c.features.map Feature.toJson))])

/-- A document as JSON. -/
def Document.toJson : Document Float → Json
  | featureCollection c => c.toJson
  | feature f => f.toJson
  | geometry g => g.toJson

end AreaOfInterest
