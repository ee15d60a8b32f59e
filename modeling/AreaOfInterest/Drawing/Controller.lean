import AreaOfInterest.Drawing.Mode
import AreaOfInterest.Drawing.Ring
import AreaOfInterest.Selection.Buffering

/-!
# Drawing

The tool in use, the vertex being dragged and whether the last drawing crossed itself. Finishing a drawing
brings its ring back into the valid extent, refuses it when its stored bounding box has no width or no
height, and refuses a freehand one that is not a valid polygon.
-/

namespace AreaOfInterest

/-- What became of a drawing. -/
inductive DrawOutcome (α : Type) where
  /-- No drawing tool was in use. -/
  | ignored
  /-- The drawing has no area; the tool stays in use. -/
  | degenerate
  /-- The freehand drawing is not a valid polygon; the tool stays in use. -/
  | invalid (shape : Shape α)
  /-- The drawing on the map and as it is stored. -/
  | committed (shape : Shape α) (collection : FeatureCollection α) (provenance : Provenance)

/-- The drawing tools' state. -/
structure DrawController (α : Type) where
  mode : DrawMode
  invalidDraw : Bool
  drag : Option (VertexDrag α)
  deriving BEq, DecidableEq, Repr

namespace DrawController

variable {α : Type} [Scalar α]

/-- No tool in use and nothing drawn yet. -/
def new : DrawController α := ⟨.normal, false, none⟩

/-- Starts dragging a vertex; refused while a drawing tool is in use. -/
def beginDrag (d : DrawController α) (drag : VertexDrag α) : DrawController α × Bool :=
  if d.mode.allowsVertexEditing then ({ d with drag := some drag }, true) else (d, false)

/-- Lets go of the dragged vertex. -/
def endDrag (d : DrawController α) : DrawController α × Option (VertexDrag α) := ({ d with drag := none }, d.drag)

/-- Feeds an event to the tools. Choosing a tool lets go of a dragged vertex, cancelling forgets an invalid drawing. -/
def transition (d : DrawController α) (event : ToolEvent) : DrawController α :=
  let mode := d.mode.transition event
  { mode
    invalidDraw := if event = .cancel then false else d.invalidDraw
    drag := if mode.isDrawing then none else d.drag }

/-- Feeds an event to the tools, after the view was brought back into the valid extent. -/
def handle (d : DrawController α) (event : ToolEvent) (v : Viewport α) : DrawController α × Viewport α :=
  (d.transition event, v.snapped)

/-- Whether the first feature's bounding box has no width or no height, or is missing. -/
def isDegenerate (c : FeatureCollection α) : Bool :=
  match c.features.head?.bind (·.bbox) with
  | some [west, south, east, north] => west == east || south == north
  | _ => true

/-- Finishes a drawing given by its ring on the map. -/
def drawEnd (d : DrawController α) (ring : Polyline α) (projection : Extent α) (ops : PlanarOps α) :
    DrawController α × DrawOutcome α :=
  match d.mode.provenance? with
  | none => (d, .ignored)
  | some provenance =>
    let shape : Shape α := .polygon (.ofRings (ring.map (Wrap.unwrapCoord projection)) [])
    let collection := FeatureCollection.ofProjected shape
    if isDegenerate collection then (d, .degenerate)
    else if d.mode = .drawFree && !ops.isValidPolygon collection then
      ({ d with invalidDraw := true }, .invalid shape)
    else
      ({ d with invalidDraw := false, mode := d.mode.transition .finish }, .committed shape collection provenance)

end DrawController

end AreaOfInterest
