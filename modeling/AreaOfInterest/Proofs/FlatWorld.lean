import AreaOfInterest.Editor
import AreaOfInterest.Geometry.Validity

/-!
# A flat world

The editor over the rational numbers. Linear functions stand in for the transcendental ones, so that projecting
is linear and nothing is ever rounded. What the general statements say can be computed here, and hypotheses can
be seen to be met.

The planar operations are exact as well. Validity is decided on the lattice that the positions span, and a buffer
is the box around a shape, grown by the distance.
-/

namespace AreaOfInterest

/-- Rationals, with a tangent and a logarithm whose composition takes a latitude to half of it. -/
instance : Scalar Rat where
  decideLT := inferInstance
  decideLE := inferInstance
  min x y := if y < x then y else x
  max x y := if x < y then y else x
  sortsBefore x y := x ≤ y
  isFinite _ := true
  isNaN _ := false
  abs x := if x < 0 then -x else x
  floor x := x.floor
  ceil x := x.ceil
  round x := if x < 0 then -(-x + 1 / 2).floor else (x + 1 / 2).floor
  toInt32 x := x.floor
  pi := 180
  tan x := x - 45
  atan x := x + 45
  exp x := x
  log x := x
  exp2 x := x + 1
  log2 x := x - 1

/-- On flat ground the area of a polygon is its planar one. -/
instance : Surface Rat where
  squareMetres p := p.area

namespace FlatWorld

/-- Within its limits a value is not moved. -/
theorem clamp_of_mem {lo hi x : Rat} (hlo : lo ≤ x) (hhi : x ≤ hi) : Scalar.clamp lo hi x = x := by
  unfold Scalar.clamp
  rw [if_neg (Rat.not_lt.mpr hlo), if_neg (Rat.not_lt.mpr hhi)]

/-- The radius of the flat world is the one of the sphere. -/
theorem earthRadius_eq : (Mercator.earthRadius : Rat) = 6378137 := by decide +kernel

/-- Eastings are longitudes in other units. -/
theorem easting_eq (longitude : Rat) : Mercator.easting longitude = 6378137 * longitude := by
  change Mercator.earthRadius * (longitude * (180 / 180.0)) = _
  rw [earthRadius_eq]
  grind

/-- Northings are latitudes in other units, up to the edges of the map. -/
theorem northing_eq {latitude : Rat} (south : -Mercator.maxLatitude ≤ latitude)
    (north : latitude ≤ Mercator.maxLatitude) : Mercator.northing latitude = 6378137 * latitude / 2 := by
  have hlimit : (Mercator.maxLatitude : Rat) = 85.05112877980659 := rfl
  have hworld : (Mercator.halfWorld : Rat) = 1148064660 := by decide +kernel
  change Scalar.clamp (-Mercator.halfWorld) Mercator.halfWorld (Mercator.earthRadius *
    ((180 / 4.0 + (Scalar.clamp (-Mercator.maxLatitude) Mercator.maxLatitude latitude * (180 / 180.0)) / 2.0) - 45)) = _
  rw [clamp_of_mem south north, earthRadius_eq, hworld, clamp_of_mem]
  all_goals grind

/-- The longitude of an easting. -/
theorem longitude_eq (x : Rat) : Mercator.longitude x = x / 6378137 := by
  change x / Mercator.earthRadius * (180.0 / 180) = _
  rw [earthRadius_eq]
  grind

/-- The latitude of a northing. -/
theorem latitude_eq (y : Rat) : Mercator.latitude y = 2 * y / 6378137 := by
  change (2.0 * (y / Mercator.earthRadius + 45) - 180 / 2.0) * (180.0 / 180) = _
  rw [earthRadius_eq]
  grind

/-- Going to the flat map and back changes no position, up to the edges of the map. -/
theorem unproject_project {c : Coord Rat} (south : -Mercator.maxLatitude ≤ c.y) (north : c.y ≤ Mercator.maxLatitude) :
    Mercator.unproject (Mercator.project c) = c := by
  rw [Mercator.project, easting_eq, northing_eq south north, Mercator.unproject, longitude_eq, latitude_eq]
  have hx : 6378137 * c.x / 6378137 = c.x := by grind
  have hy : 2 * (6378137 * c.y / 2) / 6378137 = c.y := by grind
  rw [hx, hy]

/-- The least number by which some positions become whole. -/
def commonDenominator (coords : List (Coord Rat)) : Nat := coords.foldl (fun n c => (n.lcm c.x.den).lcm c.y.den) 1

/-- The lattice point of a position, in parts of a whole. -/
def ofCoord (parts : Nat) (c : Coord Rat) : Lattice.Point := ⟨(c.x * parts).num, (c.y * parts).num⟩

/-- Whether some polygons form a valid polygon or multipolygon. -/
def areValid (polygons : List (Polygon Rat)) : Bool :=
  let parts := commonDenominator (polygons.flatMap (·.rings.flatten))
  let areas := polygons.map fun p => Validity.Area.mk (p.exterior.map (ofCoord parts)) (p.interiors.map (·.map (ofCoord parts)))
  !polygons.isEmpty && areas.all Validity.Area.isValid && Validity.allPairs Validity.Area.isApart areas

/-- The box around a shape, grown by a distance on every side. -/
def buffer? (shape : Shape Rat) (distance : Rat) : Option (List (Polygon Rat)) :=
  (Extent.ofShape? shape).map fun e =>
    [Extent.polygon ⟨e.minX - distance, e.minY - distance, e.maxX + distance, e.maxY + distance⟩]

/-- Planar operations without rounding. -/
def planarOps : PlanarOps Rat where
  isValid shape := areValid shape.polygons
  buffer? := buffer?
  union := (· ++ ·)

/-- A new editor with the default settings. -/
def start : Editor Rat := (Editor.new? .default planarOps).get (by decide +kernel)

/-- A ring that crosses itself. -/
def bowtie : Polyline Rat := [⟨0, 0⟩, ⟨300000000, 200000000⟩, ⟨300000000, 0⟩, ⟨0, 200000000⟩]

/-- A box is drawn. -/
def boxDrawn : List (Action Rat) :=
  [.selectTool .selectBox, .drawEnd [⟨0, 0⟩, ⟨0, 200000000⟩, ⟨300000000, 200000000⟩, ⟨300000000, 0⟩]]

/-- The new editor is one. -/
theorem new?_eq_start : Editor.new? .default planarOps = some start := (Option.some_get _).symm

end FlatWorld

end AreaOfInterest
