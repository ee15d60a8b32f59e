import AreaOfInterest.Geometry.Shape

/-!
# Spherical Mercator

The map shows longitude and latitude in degrees as metres on a square whose half side is
`halfWorld`. Both directions treat the two axes separately. Latitudes beyond the edge of the square
are moved to the edge first, so the poles have a finite image.
-/

namespace AreaOfInterest.Mercator

variable {α : Type} [Scalar α]

/-- Radius of the sphere in metres. -/
def earthRadius : α := 6378137.0

/-- Half the width and height of the projected world in metres. -/
def halfWorld : α := Scalar.pi * earthRadius

/-- The latitude at which the projected world becomes a square. -/
def maxLatitude : α := 85.05112877980659

/-- Degrees to radians. -/
def radians (degrees : α) : α := degrees * (Scalar.pi / 180.0)

/-- Radians to degrees. -/
def degrees (radians : α) : α := radians * (180.0 / Scalar.pi)

/-- Easting of a longitude. -/
def easting (longitude : α) : α := earthRadius * radians longitude

/-- Northing of a latitude. -/
def northing (latitude : α) : α :=
  let latitude := Scalar.clamp (-maxLatitude) maxLatitude latitude
  let y := earthRadius * Scalar.log (Scalar.tan (Scalar.pi / 4.0 + radians latitude / 2.0))
  Scalar.clamp (-halfWorld) halfWorld y

/-- Longitude of an easting. -/
def longitude (x : α) : α := degrees (x / earthRadius)

/-- Latitude of a northing. -/
def latitude (y : α) : α :=
  degrees (2.0 * Scalar.atan (Scalar.exp (y / earthRadius)) - Scalar.pi / 2.0)

/-- A geographic position on the map. -/
def project (c : Coord α) : Coord α := ⟨easting c.x, northing c.y⟩

/-- The geographic position of a point of the map. -/
def unproject (c : Coord α) : Coord α := ⟨longitude c.x, latitude c.y⟩

/-- Keeps a longitude within one turn around the antimeridian. -/
def clampLongitude (c : Coord α) : Coord α :=
  ⟨if c.x > 0.0 then min c.x 180.0 else max c.x (-180.0), c.y⟩

/-- A geographic shape on the map. -/
def projectShape (shape : Shape α) : Shape α := shape.map project

/-- The geographic form of a shape on the map. -/
def unprojectShape (shape : Shape α) : Shape α := shape.map unproject

/-- Rounds to five decimal places, about a metre at the equator. -/
def truncate (value : α) : α := Scalar.round (value * 100000.0) / 100000.0

/-- Rounds both ordinates to five decimal places. -/
def truncateCoord (c : Coord α) : Coord α := ⟨truncate c.x, truncate c.y⟩

end AreaOfInterest.Mercator
