import AreaOfInterest.Geometry.Wrap

/-!
# The viewport

A window of pixels over the projected world, given by its centre and its resolution in metres per
pixel. The resolution is kept between those of the finest and the coarsest zoom level. A tile size for
which these two are out of order has no viewport, so every viewport that exists has its limits in order.
-/

namespace AreaOfInterest

/-- The part of the map on show. -/
structure Viewport (α : Type) where
  center : Coord α
  /-- Metres per pixel. -/
  resolution : α
  widthPx : α
  heightPx : α
  tileSize : α
  minZoom : Nat
  maxZoom : Nat
  projection : Extent α
  deriving BEq, DecidableEq, Repr

namespace Viewport

variable {α : Type} [Scalar α]

/-- Side of a map tile in pixels unless set otherwise. -/
def defaultTileSize : α := 256.0

/-- What resetting the map shows: the inhabited world without the empty polar rows. -/
def inhabitedWorld : Extent α :=
  ⟨-14251567.50789682, -10584983.780136958, 14251787.50789682, 10584983.780136958⟩

/-- The whole zoom level of a resolution, rounded down. -/
def zoomLevelFor (resolution : α) (projection : Extent α) (tileSize : α) : Int :=
  Scalar.toInt32 (Scalar.floor (Scalar.log2 (projection.width / tileSize / resolution)))

/-- The resolution at which one tile shows the whole world. -/
def maxResolution (v : Viewport α) : α := v.projection.width / v.tileSize

/-- The resolution of a zoom level, which need not be whole. -/
def resolutionForZoom (v : Viewport α) (zoom : α) : α := v.maxResolution / Scalar.exp2 zoom

/-- The smallest admitted resolution. -/
def finest (v : Viewport α) : α := v.resolutionForZoom (Scalar.ofNat v.maxZoom)

/-- The largest admitted resolution. -/
def coarsest (v : Viewport α) : α := v.resolutionForZoom (Scalar.ofNat v.minZoom)

/-- Whether the admitted resolutions form a range. -/
def limitsOrdered (v : Viewport α) : Bool := v.finest ≤ v.coarsest

/-- Sets the resolution, moved into the admitted range. -/
def setResolution (v : Viewport α) (resolution : α) : Viewport α :=
  { v with resolution := Scalar.clamp v.finest v.coarsest resolution }

/-- Sets the resolution of a zoom level. -/
def setZoom (v : Viewport α) (zoom : α) : Viewport α := v.setResolution (v.resolutionForZoom zoom)

/-- Moves the centre. -/
def setCenter (v : Viewport α) (center : Coord α) : Viewport α := { v with center }

/-- A viewport of the given size at zoom level 2, centred just east of the origin. -/
def new (widthPx heightPx : α) : Viewport α :=
  setZoom
    { center := ⟨110.0, 0.0⟩, resolution := 1.0, widthPx, heightPx, tileSize := defaultTileSize,
      minZoom := 2, maxZoom := 22, projection := .world }
    2.0

/-- The zoom level of the present resolution, which need not be whole. -/
def zoom (v : Viewport α) : α := Scalar.log2 (v.maxResolution / v.resolution)

/-- The whole zoom level of the present resolution. -/
def zoomLevel (v : Viewport α) : Int := zoomLevelFor v.resolution v.projection v.tileSize

/-- Sets the admitted zoom levels, given in either order; none when that leaves no range of resolutions. -/
def withZoomLimits? (v : Viewport α) (a b : Nat) : Option (Viewport α) :=
  let v := { v with minZoom := min a b, maxZoom := max a b }
  if v.limitsOrdered then some (v.setResolution v.resolution) else none

/-- Sets the tile size and keeps the zoom level; none when that leaves no range of resolutions. -/
def withTileSize? (v : Viewport α) (tileSize : α) : Option (Viewport α) :=
  let zoom := v.zoom
  let v := { v with tileSize }
  if v.limitsOrdered then some (v.setZoom zoom) else none

/-- The extent on show. -/
def extent (v : Viewport α) : Extent α :=
  let halfWidth := v.widthPx * v.resolution / 2.0
  let halfHeight := v.heightPx * v.resolution / 2.0
  ⟨v.center.x - halfWidth, v.center.y - halfHeight, v.center.x + halfWidth, v.center.y + halfHeight⟩

/-- Centres on an extent with the resolution that just shows all of it. An extent without size keeps the resolution. -/
def fitExtent (v : Viewport α) (e : Extent α) : Viewport α :=
  let v := v.setCenter e.center
  let resolution := max (e.width / v.widthPx) (e.height / v.heightPx)
  if resolution > 0.0 ∧ Scalar.isFinite resolution then v.setResolution resolution else v

/-- Shows all of a shape; a point only moves the centre. -/
def fitShape (v : Viewport α) : Shape α → Viewport α
  | .point c => v.setCenter c
  | shape =>
    match Extent.ofShape? shape with
    | some e => v.fitExtent e
    | none => v

/-- Shows the inhabited world. -/
def resetToWorld (v : Viewport α) : Viewport α := v.fitExtent inhabitedWorld

/-- The pixel of a position, counted from the upper left corner. -/
def pixelOf (v : Viewport α) (c : Coord α) : Coord α :=
  ⟨(c.x - v.center.x) / v.resolution + v.widthPx / 2.0, (v.center.y - c.y) / v.resolution + v.heightPx / 2.0⟩

/-- The position at a pixel. -/
def coordAt (v : Viewport α) (pixel : Coord α) : Coord α :=
  ⟨v.center.x + (pixel.x - v.widthPx / 2.0) * v.resolution, v.center.y - (pixel.y - v.heightPx / 2.0) * v.resolution⟩

/-- Whether the centre has left the valid extent. -/
def isOutside (v : Viewport α) : Bool := Wrap.isOutside v.center.x v.projection

/-- Brings the centre back into the valid extent by whole worlds, which shows the same view. -/
def snapped (v : Viewport α) : Viewport α :=
  if v.isOutside then v.setCenter (Wrap.unwrapCoord v.projection v.center) else v

/-- Brings the centre back, and tells whether it had left the valid extent. -/
def snap (v : Viewport α) : Viewport α × Bool := if v.isOutside then (v.snapped, true) else (v, false)

/-- A change of the view. -/
inductive Move (α : Type) where
  | setCenter (center : Coord α)
  | setZoom (zoom : α)
  | setResolution (resolution : α)
  | fitExtent (extent : Extent α)
  | fitShape (shape : Shape α)
  | resetToWorld
  | snap

/-- The viewport after a change of the view. -/
def move (v : Viewport α) : Move α → Viewport α
  | .setCenter c => v.setCenter c
  | .setZoom z => v.setZoom z
  | .setResolution r => v.setResolution r
  | .fitExtent e => v.fitExtent e
  | .fitShape s => v.fitShape s
  | .resetToWorld => v.resetToWorld
  | .snap => v.snapped

end Viewport

end AreaOfInterest
