import AreaOfInterest.Drawing.Ring
import AreaOfInterest.Selection.Session

/-!
# Settings

What a configuration file asks for, and what an editor runs with: values that make no sense are replaced
by the defaults, and zoom limits are put in order.
-/

namespace AreaOfInterest

/-- How places are looked up. -/
structure LookupSettings where
  url : String := "https://nominatim.openstreetmap.org/search"
  timeoutSecs : Nat := 30
  userAgent : String := "aoikit/0.1.0"
  deriving BEq, DecidableEq, Repr, Inhabited

/-- The values of a configuration file, the defaults standing in for missing ones. -/
structure FileSettings (α : Type) where
  /-- The largest acceptable area in square kilometres; without it areas are not limited. -/
  maxArea : Option α
  /-- The largest buffer in metres. -/
  maxBuffer : α
  /-- Pick radius around a vertex in pixels. -/
  vertexTolerance : α
  minZoom : Nat
  maxZoom : Nat
  initialZoom : α
  tileSize : α
  viewportWidth : α
  viewportHeight : α
  lookup : Option LookupSettings
  deriving BEq, Repr

/-- The values an editor runs with. -/
structure EditorSettings (α : Type) where
  maxArea : Option α
  maxBuffer : α
  vertexTolerance : α
  minZoom : Nat
  maxZoom : Nat
  initialZoom : α
  tileSize : α
  viewportWidth : α
  viewportHeight : α
  lookup : LookupSettings
  deriving BEq, Repr

variable {α : Type} [Scalar α]

/-- The values of an empty file. -/
def FileSettings.default : FileSettings α :=
  { maxArea := none, maxBuffer := Session.defaultMaxBuffer, vertexTolerance := Ring.defaultTolerance,
    minZoom := 2, maxZoom := 22, initialZoom := 2.0, tileSize := Viewport.defaultTileSize,
    viewportWidth := 1024.0, viewportHeight := 768.0, lookup := none }

namespace EditorSettings

/-- The value when it is positive and finite, else the fallback. -/
def positiveOr (value fallback : α) : α := if value > 0.0 ∧ Scalar.isFinite value then value else fallback

/-- The settings of a file, with values that make no sense replaced. -/
def ofFile (file : FileSettings α) : EditorSettings α :=
  let fallback : FileSettings α := .default
  { maxArea := file.maxArea.filter (· > 0.0)
    maxBuffer := if file.maxBuffer ≥ 0.0 ∧ Scalar.isFinite file.maxBuffer then file.maxBuffer else fallback.maxBuffer
    vertexTolerance := max file.vertexTolerance 0.0
    minZoom := min file.minZoom file.maxZoom
    maxZoom := max file.maxZoom file.minZoom
    initialZoom := file.initialZoom
    tileSize := positiveOr file.tileSize fallback.tileSize
    viewportWidth := positiveOr file.viewportWidth fallback.viewportWidth
    viewportHeight := positiveOr file.viewportHeight fallback.viewportHeight
    lookup := file.lookup.getD {} }

/-- The settings without a file. -/
def default : EditorSettings α := ofFile .default

end EditorSettings

end AreaOfInterest
