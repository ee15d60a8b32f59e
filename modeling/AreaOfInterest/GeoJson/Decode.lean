import AreaOfInterest.GeoJson.Model
import AreaOfInterest.Json.Reader
import AreaOfInterest.Failure

/-!
# Reading GeoJSON

Unknown members are passed over, and a feature's own `type` is not looked at. A feature or a feature
collection may also be an array of its members' values in their order, and a geometry an array of its
kind and its payload. A geometry within a collection may also give its kind by its place in the list of kinds.
A known member may be there only once. Documents come with their members in order, so that none is
repeated; the reply to a place search is read as it is written.
-/

namespace AreaOfInterest

open Json

/-- The ordinates of a position. -/
def Position.ofJson? (value : Json) : Option (Position Float) :=
  value.items?.bind (·.mapM float?)

/-- Several positions. -/
def Position.lineOfJson? (value : Json) : Option (List (Position Float)) :=
  value.items?.bind (·.mapM Position.ofJson?)

/-- Several lines of positions. -/
def Position.ringsOfJson? (value : Json) : Option (List (List (Position Float))) :=
  value.items?.bind (·.mapM Position.lineOfJson?)

/-- The only element of a list. -/
def only? {β : Type} : List β → Option β
  | [b] => some b
  | _ => none

/-- The values that the members of a geometry object give to its kind and its payload. -/
structure GeometryParts where
  kinds : List Json
  coordinates : List Json
  /-- The values of `geometries`, none for one that cannot be read. -/
  members : List (Option (List (Geometry Float)))

/-- The kind that a value names. Within a collection it may be its place among the kinds. -/
def GeometryKind.ofJson? (nested : Bool) : Json → Option GeometryKind
  | .string name => GeometryKind.ofName? name
  | .number (.whole index) => if nested && 0 ≤ index then GeometryKind.all[index.toNat]? else none
  | _ => none

/-- The geometry of one kind, whose payload is `coordinates` or, for a collection, `members`. -/
def Geometry.ofParts? (nested : Bool) (parts : GeometryParts) : Option (Geometry Float) := do
  let kind ← GeometryKind.ofJson? nested (← only? parts.kinds)
  let coordinates := only? parts.coordinates
  match kind with
  | .point => return .point (← Position.ofJson? (← coordinates))
  | .multiPoint => return .multiPoint (← Position.lineOfJson? (← coordinates))
  | .lineString => return .lineString (← Position.lineOfJson? (← coordinates))
  | .multiLineString => return .multiLineString (← Position.ringsOfJson? (← coordinates))
  | .polygon => return .polygon (← Position.ringsOfJson? (← coordinates))
  | .multiPolygon => return .multiPolygon (← (← (← coordinates).items?).mapM Position.ringsOfJson?)
  | .geometryCollection => return .collection (← (← only? parts.members))

mutual

/-- Reads a geometry, which may stand within a collection. -/
def Geometry.readJson? (nested : Bool) : Json → Option (Geometry Float)
  | .object members => ofParts? nested (partsOfMembers members)
  | .array items => ofPair? nested items
  | _ => none

/-- Reads a geometry from its kind and its payload. -/
def Geometry.ofPair? (nested : Bool) : List Json → Option (Geometry Float)
  | [kind, payload] => ofParts? nested ⟨[kind], [payload], [listOfJson? payload]⟩
  | _ => none

/-- Reads the geometries of a collection. -/
def Geometry.listOfJson? : Json → Option (List (Geometry Float))
  | .array items => eachOfJson? items
  | _ => none

/-- Reads several geometries of a collection. -/
def Geometry.eachOfJson? : List Json → Option (List (Geometry Float))
  | [] => some []
  | item :: rest =>
    match readJson? true item, eachOfJson? rest with
    | some g, some gs => some (g :: gs)
    | _, _ => none

/-- Looks through the members of a geometry object. -/
def Geometry.partsOfMembers : List (String × Json) → GeometryParts
  | [] => ⟨[], [], []⟩
  | (key, value) :: rest =>
    let parts := partsOfMembers rest
    if key = "type" then { parts with kinds := value :: parts.kinds }
    else if key = "coordinates" then { parts with coordinates := value :: parts.coordinates }
    else if key = "geometries" then { parts with members := listOfJson? value :: parts.members }
    else parts

end

/-- Reads a geometry that stands by itself. -/
def Geometry.ofJson? (value : Json) : Option (Geometry Float) := readJson? false value

/-- A member that may be missing or null. -/
def nullable {β : Type} (read : Json → Option β) : Json → Option (Option β)
  | .null => some none
  | value => (read value).map some

/-- The value of a key that is there once, null for one that is missing. -/
def valueOnce? (key : String) (members : List (String × Json)) : Option Json :=
  match members.filter (·.1 = key) with
  | [] => some .null
  | [(_, value)] => some value
  | _ => none

/-- The members of an object. -/
def membersOfJson? : Json → Option Json.Members
  | .object members => some members
  | _ => none

/-- Reads a feature from the values of its members. -/
def Feature.ofValues? (id bbox geometry properties : Json) : Option (Feature Float) := do
  return ⟨← nullable some id, ← nullable Position.ofJson? bbox, ← nullable Geometry.ofJson? geometry,
    ← nullable membersOfJson? properties⟩

/-- Reads a feature. -/
def Feature.ofJson? : Json → Option (Feature Float)
  | .object members => do
    ofValues? (← valueOnce? "id" members) (← valueOnce? "bbox" members) (← valueOnce? "geometry" members)
      (← valueOnce? "properties" members)
  | .array [id, bbox, geometry] => ofValues? id bbox geometry .null
  | .array [id, bbox, geometry, properties] => ofValues? id bbox geometry properties
  | _ => none

/-- Reads a feature collection from the values of its members. -/
def FeatureCollection.ofValues? (bbox features : Json) : Option (FeatureCollection Float) := do
  return ⟨← nullable Position.ofJson? bbox, ← (← features.items?).mapM Feature.ofJson?⟩

/-- Reads a feature collection. -/
def FeatureCollection.ofJson? : Json → Option (FeatureCollection Float)
  | .object members => do ofValues? (← valueOnce? "bbox" members) (← valueOnce? "features" members)
  | .array [bbox, features] => ofValues? bbox features
  | _ => none

/-- The feature with its free values put in order. -/
def Feature.sorted {α : Type} (f : Feature α) : Feature α :=
  { f with id := f.id.map Json.sorted, properties := f.properties.map fun p => Members.ofList (sortedMembers p) }

/-- The members of a feature collection and of its features that are read. -/
def FeatureCollection.known : Interest :=
  let feature := .members [("id", .whole), ("bbox", .whole), ("geometry", .whole), ("properties", .whole)]
  .members [("bbox", .whole), ("features", .items feature)]

/-- Reads a feature collection from a text. Unlike in a document, a known member may not be repeated, and unknown
ones need no value. -/
def FeatureCollection.parse? (text : String) : Option (FeatureCollection Float) :=
  ((Json.parseMembers known text).toOption.bind ofJson?).map fun c => { c with features := c.features.map Feature.sorted }

/-- Reads a document, guided by its `type` member. -/
def Document.ofJson (value : Json) : Except (Failure Float) (Document Float) :=
  let read {β : Type} (result : Option β) (wrap : β → Document Float) : Except (Failure Float) (Document Float) :=
    match result with
    | some b => .ok (wrap b)
    | none => .error (.json .form)
  match (value.member? "type").bind text? with
  | none => .error .untyped
  | some "FeatureCollection" => read (FeatureCollection.ofJson? value) .featureCollection
  | some "Feature" => read (Feature.ofJson? value) .feature
  | some name =>
    if (GeometryKind.ofName? name).isSome then read (Geometry.ofJson? value) .geometry
    else .error (.unknownType name)

/-- Reads a document from its text. -/
def Document.parse (text : String) : Except (Failure Float) (Document Float) :=
  match Json.parse text with
  | .error fault => .error (.json (.text fault))
  | .ok value => Document.ofJson value

end AreaOfInterest
