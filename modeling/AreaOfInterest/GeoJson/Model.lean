import AreaOfInterest.Geometry.Shape
import AreaOfInterest.Json.Value

/-!
# GeoJSON documents

Selections come and go as GeoJSON in degrees. Positions may have any number of ordinates and rings
need not be closed here; that is settled when a geometry becomes a shape. Feature identifiers and
properties are free JSON values.
-/

namespace AreaOfInterest

/-- The ordinates of a position: longitude, latitude and whatever follows. -/
abbrev Position (α : Type) := List α

/-- The kinds of geometry. -/
inductive GeometryKind where
  | point | multiPoint | lineString | multiLineString | polygon | multiPolygon | geometryCollection
  deriving DecidableEq, Repr

/-- The name of a kind as the `type` member has it. -/
def GeometryKind.name : GeometryKind → String
  | point => "Point"
  | multiPoint => "MultiPoint"
  | lineString => "LineString"
  | multiLineString => "MultiLineString"
  | polygon => "Polygon"
  | multiPolygon => "MultiPolygon"
  | geometryCollection => "GeometryCollection"

/-- The kinds in their order. -/
def GeometryKind.all : List GeometryKind :=
  [point, multiPoint, lineString, multiLineString, polygon, multiPolygon, geometryCollection]

/-- The kind of a name. -/
def GeometryKind.ofName? (name : String) : Option GeometryKind := all.find? (·.name == name)

/-- A geometry as its document has it. -/
inductive Geometry (α : Type) where
  | point (position : Position α)
  | multiPoint (positions : List (Position α))
  | lineString (positions : List (Position α))
  | multiLineString (lines : List (List (Position α)))
  | polygon (rings : List (List (Position α)))
  | multiPolygon (polygons : List (List (List (Position α))))
  | collection (members : List (Geometry α))
  deriving Inhabited

namespace Geometry

variable {α : Type}

/-- The kind of a geometry. -/
def kind : Geometry α → GeometryKind
  | point _ => .point
  | multiPoint _ => .multiPoint
  | lineString _ => .lineString
  | multiLineString _ => .multiLineString
  | polygon _ => .polygon
  | multiPolygon _ => .multiPolygon
  | collection _ => .geometryCollection

mutual

/-- Equality of geometries, ordinates compared numerically. -/
def equal [BEq α] : Geometry α → Geometry α → Bool
  | point p, point q => p == q
  | multiPoint p, multiPoint q => p == q
  | lineString p, lineString q => p == q
  | multiLineString p, multiLineString q => p == q
  | polygon p, polygon q => p == q
  | multiPolygon p, multiPolygon q => p == q
  | collection p, collection q => equalEach p q
  | _, _ => false

/-- Equality of geometries, one by one. -/
def equalEach [BEq α] : List (Geometry α) → List (Geometry α) → Bool
  | [], [] => true
  | p :: ps, q :: qs => equal p q && equalEach ps qs
  | _, _ => false

end

instance [BEq α] : BEq (Geometry α) := ⟨equal⟩

end Geometry

/-- A geometry with its identifier, bounding box and properties, all of them optional. -/
structure Feature (α : Type) where
  id : Option Json
  bbox : Option (List α)
  geometry : Option (Geometry α)
  properties : Option Json.Members
  deriving BEq, Inhabited

namespace Feature

variable {α : Type}

/-- A feature that has a geometry only. -/
def ofGeometry (geometry : Geometry α) : Feature α := ⟨none, none, some geometry, none⟩

/-- A property that is a text; the empty text counts as missing. -/
def text? (feature : Feature α) (key : String) : Option String :=
  ((feature.properties.bind (Json.Members.get? · key)).bind Json.text?).filter (· ≠ "")

end Feature

/-- Features in order, with an optional bounding box. -/
structure FeatureCollection (α : Type) where
  bbox : Option (List α)
  features : List (Feature α)
  deriving BEq, Inhabited

namespace FeatureCollection

variable {α : Type}

/-- A collection of features without a bounding box. -/
def ofFeatures (features : List (Feature α)) : FeatureCollection α := ⟨none, features⟩

/-- A collection of one feature. -/
def single (feature : Feature α) : FeatureCollection α := ofFeatures [feature]

/-- The geometries of the features that have one. -/
def geometries (c : FeatureCollection α) : List (Geometry α) := c.features.filterMap (·.geometry)

/-- Counts one more occurrence of a kind; kinds stay in the order in which they were first seen. -/
def tally (counts : List (GeometryKind × Nat)) (kind : GeometryKind) : List (GeometryKind × Nat) :=
  match counts with
  | [] => [(kind, 1)]
  | (k, n) :: rest => if k = kind then (k, n + 1) :: rest else (k, n) :: tally rest kind

/-- The first kind with the largest count. -/
def mostFrequent? (counts : List (GeometryKind × Nat)) : Option GeometryKind :=
  (counts.foldl (fun best entry =>
    match best with
    | some (_, n) => if entry.2 > n then some entry else best
    | none => some entry) none).map (·.1)

/-- The most frequent kind of geometry; of equally frequent ones the kind seen first. -/
def dominantKind? (c : FeatureCollection α) : Option GeometryKind :=
  mostFrequent? ((c.geometries.map Geometry.kind).foldl tally [])

end FeatureCollection

/-- What a document can be at its top level. -/
inductive Document (α : Type) where
  | featureCollection (collection : FeatureCollection α)
  | feature (feature : Feature α)
  | geometry (geometry : Geometry α)

/-- The features of a document. The members of a bare geometry collection become features of their own. -/
def Document.toFeatures {α : Type} : Document α → FeatureCollection α
  | featureCollection c => c
  | feature f => .single f
  | geometry (.collection members) => .ofFeatures (members.map Feature.ofGeometry)
  | geometry g => .single (.ofGeometry g)

end AreaOfInterest
