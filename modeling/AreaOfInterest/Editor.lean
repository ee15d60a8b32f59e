import AreaOfInterest.Drawing.Controller
import AreaOfInterest.Settings

/-!
# The editor

One surface for editing an area of interest: a viewport, the session that it edits, the drawing tools and
the layer of shapes on the map. An editor only changes by the actions below, each of which answers with a
reply. An action that may be refused answers with the editor that it leaves, whichever way it ends.

The layer shows the working selection, except while something is drawn or after an invalid drawing. A
buffer preview belongs to the present base of the selection and is dropped whenever that changes.
-/

namespace AreaOfInterest

/-- What became of a pointer event while a vertex is dragged. -/
inductive DragOutcome (α : Type) where
  /-- No vertex is being dragged. -/
  | idle
  | moved
  /-- The move would leave no area; the ring stays as it was. -/
  | rejected
  /-- Let go on a valid shape, which is now selected. -/
  | committed (collection : FeatureCollection α)
  /-- Let go on an invalid shape; the selection stays as it was. -/
  | invalid

/-- What the surroundings show about an editor. -/
structure Signals where
  /-- Whether the selection may be used for the next step. -/
  nextEnabled : Bool
  /-- Whether the last drawing or vertex edit crossed itself. -/
  invalidDraw : Bool
  deriving DecidableEq, Repr

/-- An editing surface. -/
structure Editor (α : Type) where
  settings : EditorSettings α
  viewport : Viewport α
  session : Session α
  draw : DrawController α
  /-- The shapes on the map, in projected metres. -/
  layer : List (Shape α)
  /-- The highlighted vertex. -/
  marker : Option (Coord α)
  /-- The buffered selection that is shown but not selected yet. -/
  preview : Option (FeatureCollection α)
  /-- The distance of the preview in metres. -/
  pendingBuffer : α
  /-- Whether the selection may be used for the next step, as far as is known. -/
  nextEnabled : Bool

/-- What can be done with an editor. -/
inductive Action (α : Type) where
  | selectTool (event : ToolEvent)
  | cancel
  | drawStart
  | drawEnd (ring : Polyline α)
  | pointerDown (pixel : Coord α)
  | pointerDrag (pixel : Coord α)
  | pointerUp
  | pointerMove (pixel : Coord α)
  | selectMapView
  | applyPlace (place : Place α)
  | importFeatures (collection : FeatureCollection α) (name : String)
  | previewBuffer (distance : α)
  | commitBuffer
  | closeBufferDialog
  | applyBuffer (distance : α)
  | revert
  | zoomToSelection
  | resetMap
  | moveView (move : Viewport.Move α)

/-- The answer to an action. -/
inductive Reply (α : Type) where
  | done
  | mode (mode : DrawMode)
  | drawn (outcome : DrawOutcome α)
  | picked (started : Bool)
  | dragged (outcome : DragOutcome α)
  | highlighted (marker : Option (Coord α))
  | selected (collection : Option (FeatureCollection α))
  | previewed (collection : FeatureCollection α)
  | refused (failure : Failure α)

/-- The answer for the result of an operation that may be refused. -/
def Reply.ofResult {α : Type} : Except (Failure α) Unit → Reply α
  | .ok () => .done
  | .error failure => .refused failure

namespace Shape

variable {α : Type}

/-- The polygon at a place of a polygonal shape. -/
def polygonAt? : Shape α → Nat → Option (Polygon α)
  | polygon p, 0 => some p
  | multiPolygon ps, i => ps[i]?
  | _, _ => none

/-- The shape with another polygon at a place. -/
def setPolygon : Shape α → Nat → Polygon α → Shape α
  | polygon _, 0, q => polygon q
  | multiPolygon ps, i, q => multiPolygon (ps.set i q)
  | shape, _, _ => shape

end Shape

namespace Editor

variable {α : Type} [Scalar α] [Surface α]

/-- A new editor; none when the settings leave no range of resolutions. -/
def new? (settings : EditorSettings α) (ops : PlanarOps α) : Option (Editor α) := do
  let v ← (Viewport.new settings.viewportWidth settings.viewportHeight).withTileSize? settings.tileSize
  let v ← v.withZoomLimits? settings.minZoom settings.maxZoom
  return {
    settings
    viewport := v.setZoom settings.initialZoom
    session := (Session.new ops).withLimits settings.maxBuffer settings.maxArea
    draw := .new, layer := [], marker := none, preview := none, pendingBuffer := 0.0, nextEnabled := false }

/-- What the surroundings show. -/
def signals (e : Editor α) : Signals := ⟨e.nextEnabled, e.draw.invalidDraw⟩

/-- What the selection looks like to others. -/
def working (e : Editor α) : Option (FeatureCollection α) := e.session.working

/-- Looks again whether the selection may be used. -/
def refreshed (e : Editor α) : Editor α := { e with nextEnabled := e.session.nextEnabled }

/-- Drops the buffer preview. -/
def withoutPreview (e : Editor α) : Editor α := { e with preview := none, pendingBuffer := 0.0 }

/-- Puts the selection on the map. -/
def showWorking (e : Editor α) : Editor α :=
  { e with layer := (e.working.map FeatureCollection.toProjected).getD [] }.withoutPreview.refreshed

/-- Feeds an event to the tools. -/
def handle (e : Editor α) (event : ToolEvent) : Editor α :=
  let (draw, viewport) := e.draw.handle event e.viewport
  { e with draw, viewport }

/-- Leaves every tool and drops the drawing and the selection. -/
def cancel (e : Editor α) : Editor α :=
  let e := e.handle .cancel
  { e with draw := e.draw.endDrag.1, layer := [], marker := none, session := e.session.clear,
           nextEnabled := false }.withoutPreview

/-- Chooses a tool; cancelling is `cancel`. -/
def selectTool (e : Editor α) (event : ToolEvent) : Editor α :=
  if event = .cancel then e.cancel else { e with marker := none }.handle event

/-- A drawing begins: it takes the layer for itself. -/
def drawStart (e : Editor α) : Editor α := if e.draw.mode.isDrawing then { e with layer := [] } else e

/-- The description of a drawn selection. -/
def drawnDescription : Provenance → String
  | .box => "Box"
  | _ => "Draw"

/-- Finishes a drawing given by its ring on the map. An invalid one stays on the layer. -/
def drawEnd (e : Editor α) (ring : Polyline α) : Editor α × DrawOutcome α :=
  let (draw, outcome) := e.draw.drawEnd ring e.viewport.projection e.session.ops
  let e := { e with draw }
  match outcome with
  | .committed shape collection provenance =>
    let session := e.session.select collection provenance Session.customTitle (drawnDescription provenance)
    ({ e with session, layer := [shape] }.withoutPreview.refreshed, outcome)
  | .invalid shape => ({ e with layer := [shape] }, outcome)
  | .degenerate | .ignored => (e, outcome)

/-- The first hit vertex of a shape's polygons, with their places. -/
def hitInShape? (e : Editor α) (pixel : Coord α) (feature : Nat) (shape : Shape α) : Option (VertexDrag α) :=
  shape.polygons.zipIdx.findSome? fun (p, polygon) =>
    (Ring.findVertex? pixel e.settings.vertexTolerance e.viewport p.exterior).map fun (vertex, coordinate) =>
      { feature, polygon, vertex, coordinate }

/-- The first hit vertex on the layer. -/
def hitVertex? (e : Editor α) (pixel : Coord α) : Option (VertexDrag α) :=
  e.layer.zipIdx.findSome? fun (shape, feature) => e.hitInShape? pixel feature shape

/-- The pointer was pressed: starts dragging the vertex below it. -/
def pointerDown (e : Editor α) (pixel : Coord α) : Editor α × Bool :=
  if e.draw.mode.allowsVertexEditing then
    match e.hitVertex? pixel with
    | some drag => let (draw, started) := e.draw.beginDrag drag; ({ e with draw }, started)
    | none => (e, false)
  else (e, false)

/-- The pointer was moved while a vertex is dragged. -/
def pointerDrag (e : Editor α) (pixel : Coord α) : Editor α × DragOutcome α :=
  let target := e.viewport.coordAt pixel
  match e.draw.drag with
  | none => (e, .idle)
  | some drag =>
    match e.layer[drag.feature]? with
    | none => (e, .idle)
    | some shape =>
      match shape.polygonAt? drag.polygon with
      | none => (e, .idle)
      | some polygon =>
        match Ring.drag? polygon.exterior drag target with
        | none => (e, .rejected)
        | some ring =>
          let shape := shape.setPolygon drag.polygon (polygon.withExterior ring)
          ({ e with layer := e.layer.set drag.feature shape,
                    draw := { e.draw with drag := some { drag with coordinate := target } },
                    marker := some target }, .moved)

/-- The layer as a collection in degrees, one bare feature per shape. -/
def geographic (layer : List (Shape α)) : FeatureCollection α :=
  .ofFeatures (layer.map fun shape => .ofGeometry (.ofShape (Mercator.unprojectShape shape)))

/-- The pointer was let go: brings the edited shape back into the valid extent and selects the layer when the
shape is valid. -/
def pointerUp (e : Editor α) : Editor α × DragOutcome α :=
  match e.draw.drag with
  | none => (e, .idle)
  | some drag =>
    let e := { e with draw := e.draw.endDrag.1, marker := none }
    match e.layer[drag.feature]? with
    | none => (e, .idle)
    | some shape =>
      let e := { e with layer := e.layer.set drag.feature (Wrap.unwrapShape shape e.viewport.projection) }
      let collection := geographic e.layer
      let edited : FeatureCollection α := .ofFeatures (collection.features[drag.feature]?).toList
      if e.session.ops.isValidPolygon edited then
        match e.session.commitEdit collection with
        | (session, .error _) => ({ e with session }, .invalid)
        | (session, .ok ()) =>
          ({ e with session, draw := { e.draw with invalidDraw := false } }.withoutPreview.refreshed,
            .committed collection)
      else ({ e with draw := { e.draw with invalidDraw := true }, nextEnabled := false }, .invalid)

/-- The pointer was moved with nothing dragged: highlights the vertex below it. -/
def pointerMove (e : Editor α) (pixel : Coord α) : Editor α × Option (Coord α) :=
  if e.draw.drag.isSome then (e, e.marker)
  else if e.layer.all (·.polygons.isEmpty) then ({ e with marker := none }, none)
  else
    let e := { e with viewport := e.viewport.snapped }
    let marker := (e.hitVertex? pixel).map (·.coordinate)
    ({ e with marker }, marker)

/-- Selects what the map shows. -/
def selectMapView (e : Editor α) : Editor α :=
  let e := e.handle .cancel
  let shape : Shape α := .polygon (Wrap.unwrapExtent e.viewport.extent e.viewport.projection).polygon
  let session := e.session.selectMapView (.ofProjected shape)
  { e with session, layer := [shape] }.withoutPreview.refreshed

/-- Fits the view to the layer: a single shape is fitted itself, several by the extent around them. -/
def zoomToSelection (e : Editor α) : Editor α :=
  match e.layer with
  | [] => e
  | [shape] => { e with viewport := e.viewport.fitShape shape }
  | shapes =>
    match Extent.hull? (shapes.filterMap Extent.ofShape?) with
    | some extent => { e with viewport := e.viewport.fitExtent extent }
    | none => e

/-- Selects a found place and shows it. -/
def applyPlace (e : Editor α) (p : Place α) : Editor α :=
  let e := e.handle .cancel
  { e with session := e.session.selectPlace p }.showWorking.zoomToSelection

/-- Selects an imported collection and shows it. -/
def importFeatures (e : Editor α) (c : FeatureCollection α) (name : String) : Editor α :=
  let e := e.handle .cancel
  { e with session := e.session.selectImport c name }.showWorking.zoomToSelection

/-- Shows the selection buffered by a distance without selecting it. -/
def previewBuffer (e : Editor α) (distance : α) : Editor α × Except (Failure α) (FeatureCollection α) :=
  match e.session.previewBuffer distance with
  | .error failure => (e, .error failure)
  | .ok c => ({ e with preview := some c, pendingBuffer := distance }, .ok c)

/-- Buffers the selection by a distance. -/
def applyBuffer (e : Editor α) (distance : α) : Editor α × Except (Failure α) Unit :=
  match e.session.applyBuffer distance with
  | (session, .error failure) => ({ e with session }, .error failure)
  | (session, .ok _) => ({ e with session }.showWorking, .ok ())

/-- Selects the buffered shape that is shown. -/
def commitBuffer (e : Editor α) : Editor α × Except (Failure α) Unit :=
  match e.preview with
  | none => (e, .error .noPendingBuffer)
  | some _ => e.applyBuffer e.pendingBuffer

/-- Goes back to the shape that was first selected. -/
def revert (e : Editor α) : Editor α × Except (Failure α) Unit :=
  match e.session.revert with
  | (session, .error failure) => ({ e with session }, .error failure)
  | (session, .ok _) => ({ e with session, draw := { e.draw with invalidDraw := false } }.showWorking, .ok ())

/-- Centre of the extent around the selection, in degrees. -/
def selectionCenter? (e : Editor α) : Option (Coord α) :=
  e.working.bind fun c =>
    (Extent.hull? ((c.geometries.filterMap Geometry.toShape?).filterMap Extent.ofShape?)).map Extent.center

/-- The editor after an action, and the answer. -/
def step (e : Editor α) : Action α → Editor α × Reply α
  | .selectTool event => let e := e.selectTool event; (e, .mode e.draw.mode)
  | .cancel => (e.cancel, .done)
  | .drawStart => (e.drawStart, .done)
  | .drawEnd ring => let (e, outcome) := e.drawEnd ring; (e, .drawn outcome)
  | .pointerDown pixel => let (e, started) := e.pointerDown pixel; (e, .picked started)
  | .pointerDrag pixel => let (e, outcome) := e.pointerDrag pixel; (e, .dragged outcome)
  | .pointerUp => let (e, outcome) := e.pointerUp; (e, .dragged outcome)
  | .pointerMove pixel => let (e, marker) := e.pointerMove pixel; (e, .highlighted marker)
  | .selectMapView => let e := e.selectMapView; (e, .selected e.working)
  | .applyPlace place => (e.applyPlace place, .done)
  | .importFeatures c name => (e.importFeatures c name, .done)
  | .previewBuffer distance =>
    match e.previewBuffer distance with
    | (e, .ok c) => (e, .previewed c)
    | (e, .error failure) => (e, .refused failure)
  | .commitBuffer => let (e, result) := e.commitBuffer; (e, .ofResult result)
  | .closeBufferDialog => (e.withoutPreview, .done)
  | .applyBuffer distance => let (e, result) := e.applyBuffer distance; (e, .ofResult result)
  | .revert => let (e, result) := e.revert; (e, .ofResult result)
  | .zoomToSelection => (e.zoomToSelection, .done)
  | .resetMap => ({ e with viewport := e.viewport.resetToWorld }, .done)
  | .moveView m => ({ e with viewport := e.viewport.move m }, .done)

/-- The editor after several actions. -/
def run (e : Editor α) (actions : List (Action α)) : Editor α := actions.foldl (fun e action => (e.step action).1) e

end Editor

end AreaOfInterest
