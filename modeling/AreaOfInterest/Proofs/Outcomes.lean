import AreaOfInterest.Proofs.Operations

/-!
# How drawing and dragging end

Finishing a drawing and the three events that drag a vertex have a few ways to end each. They are listed here
once, with the conditions under which they come about and with the whole editor that they leave. What such an
event keeps follows from these lists without another look at how it is carried out.
-/

namespace AreaOfInterest

variable {α : Type} [Scalar α]

/-- A shape on the map as a bare feature in degrees. -/
def Shape.toFeature (shape : Shape α) : Feature α := .ofGeometry (.ofShape (Mercator.unprojectShape shape))

/-- The features of a layer in degrees are those of its shapes, in order. -/
theorem Editor.geographic_features (layer : List (Shape α)) :
    (Editor.geographic layer).features = layer.map Shape.toFeature := rfl

/-- A collection of one feature is judged by that feature. -/
theorem PlanarOps.isValidPolygon_singleton (ops : PlanarOps α) (f : Feature α) :
    ops.isValidPolygon (.ofFeatures [f]) = ops.isValidFeature f := rfl

namespace Editor

/-- The editor after a dragged vertex of a shape was let go, before the shape is judged. -/
def released (e : Editor α) (drag : VertexDrag α) (shape : Shape α) : Editor α :=
  { e with draw := e.draw.endDrag.1, marker := none,
           layer := e.layer.set drag.feature (Wrap.unwrapShape shape e.viewport.projection) }

/-- The feature that is judged when a vertex is let go is the one that was dragged. -/
theorem released_feature {e : Editor α} {drag : VertexDrag α} {shape : Shape α}
    (there : e.layer[drag.feature]? = some shape) :
    (geographic (e.released drag shape).layer).features[drag.feature]? =
      some (Wrap.unwrapShape shape e.viewport.projection).toFeature := by
  have hlt : drag.feature < e.layer.length := (List.getElem?_eq_some_iff.mp there).1
  simp [geographic_features, released, hlt]

/-- The editor after a dragged vertex of one of a shape's polygons was moved to a ring's new course. -/
def moved (e : Editor α) (drag : VertexDrag α) (shape : Shape α) (polygon : Polygon α) (ring : Polyline α)
    (target : Coord α) : Editor α :=
  { e with layer := e.layer.set drag.feature (shape.setPolygon drag.polygon (polygon.withExterior ring)),
           draw := { e.draw with drag := some { drag with coordinate := target } }, marker := some target }

/-- The ways in which pressing the pointer ends. -/
inductive PointerDown (e : Editor α) (pixel : Coord α) : Editor α → Bool → Prop where
  | missed : PointerDown e pixel e false
  | picked {drag : VertexDrag α} (normal : e.draw.mode = .normal) (hit : e.hitVertex? pixel = some drag) :
      PointerDown e pixel { e with draw := { e.draw with drag := some drag } } true

/-- Pressing the pointer ends in one of the ways listed. -/
theorem pointerDown_ends (e : Editor α) (pixel : Coord α) :
    PointerDown e pixel (e.pointerDown pixel).1 (e.pointerDown pixel).2 := by
  by_cases hmode : e.draw.mode = .normal
  · cases hhit : e.hitVertex? pixel with
    | none =>
      have h : e.pointerDown pixel = (e, false) := by simp [pointerDown, hhit]
      rw [h]
      exact .missed
    | some drag =>
      have h : e.pointerDown pixel = ({ e with draw := { e.draw with drag := some drag } }, true) := by
        simp [pointerDown, DrawController.beginDrag, DrawMode.allowsVertexEditing, hmode, hhit]
      rw [h]
      exact .picked hmode hhit
  · have h : e.pointerDown pixel = (e, false) := by simp [pointerDown, DrawMode.allowsVertexEditing, hmode]
    rw [h]
    exact .missed

/-- The vertex in the pointer's grip once it is pressed. -/
def gripped? (e : Editor α) (pixel : Coord α) : Option (VertexDrag α) := (e.pointerDown pixel).1.draw.drag

/-- Pressing the pointer changes what is in its grip, and nothing else. -/
theorem pointerDown_eq (e : Editor α) (pixel : Coord α) :
    (e.pointerDown pixel).1 = { e with draw := { e.draw with drag := e.gripped? pixel } } := by
  unfold gripped?
  have hend := e.pointerDown_ends pixel
  generalize (e.pointerDown pixel).1 = e', (e.pointerDown pixel).2 = started at hend
  cases hend with
  | missed | picked => rfl

/-- The ways in which moving the pointer with a vertex picked ends. -/
inductive PointerDrag (e : Editor α) (pixel : Coord α) : Editor α → DragOutcome α → Prop where
  | idle : PointerDrag e pixel e .idle
  | rejected : PointerDrag e pixel e .rejected
  | moved {drag : VertexDrag α} {shape : Shape α} {polygon : Polygon α} {ring : Polyline α}
      (dragged : e.draw.drag = some drag) (there : e.layer[drag.feature]? = some shape)
      (part : shape.polygonAt? drag.polygon = some polygon)
      (accepted : Ring.drag? polygon.exterior drag (e.viewport.coordAt pixel) = some ring) :
      PointerDrag e pixel (e.moved drag shape polygon ring (e.viewport.coordAt pixel)) .moved

/-- Moving the pointer with a vertex picked ends in one of the ways listed. -/
theorem pointerDrag_ends (e : Editor α) (pixel : Coord α) :
    PointerDrag e pixel (e.pointerDrag pixel).1 (e.pointerDrag pixel).2 := by
  cases hdrag : e.draw.drag with
  | none =>
    have h : e.pointerDrag pixel = (e, .idle) := by simp [pointerDrag, hdrag]
    rw [h]
    exact .idle
  | some drag =>
    cases hshape : e.layer[drag.feature]? with
    | none =>
      have h : e.pointerDrag pixel = (e, .idle) := by simp [pointerDrag, hdrag, hshape]
      rw [h]
      exact .idle
    | some shape =>
      cases hpolygon : shape.polygonAt? drag.polygon with
      | none =>
        have h : e.pointerDrag pixel = (e, .idle) := by simp [pointerDrag, hdrag, hshape, hpolygon]
        rw [h]
        exact .idle
      | some polygon =>
        cases hring : Ring.drag? polygon.exterior drag (e.viewport.coordAt pixel) with
        | none =>
          have h : e.pointerDrag pixel = (e, .rejected) := by simp [pointerDrag, hdrag, hshape, hpolygon, hring]
          rw [h]
          exact .rejected
        | some ring =>
          have h : e.pointerDrag pixel = (e.moved drag shape polygon ring (e.viewport.coordAt pixel), .moved) := by
            simp [pointerDrag, hdrag, hshape, hpolygon, hring, moved]
          rw [h]
          exact .moved hdrag hshape hpolygon hring

/-- Moving the pointer with a vertex picked keeps the session. -/
theorem session_pointerDrag (e : Editor α) (pixel : Coord α) : (e.pointerDrag pixel).1.session = e.session := by
  have hend := e.pointerDrag_ends pixel
  generalize (e.pointerDrag pixel).1 = e', (e.pointerDrag pixel).2 = outcome at hend
  cases hend with
  | idle | rejected | moved => rfl

variable [Surface α]

/-- The ways in which letting go of the pointer ends. -/
inductive PointerUp (e : Editor α) : Editor α → DragOutcome α → Prop where
  | idle (nothing : e.draw.drag = none) : PointerUp e e .idle
  | offLayer {drag : VertexDrag α} (dragged : e.draw.drag = some drag) (gone : e.layer[drag.feature]? = none) :
      PointerUp e { e with draw := e.draw.endDrag.1, marker := none } .idle
  | unselected {drag : VertexDrag α} {shape : Shape α} (dragged : e.draw.drag = some drag)
      (there : e.layer[drag.feature]? = some shape)
      (valid : e.session.ops.isValidFeature (Wrap.unwrapShape shape e.viewport.projection).toFeature)
      (unselected : e.session.record = none) : PointerUp e (e.released drag shape) .invalid
  | committed {drag : VertexDrag α} {shape : Shape α} {session : Session α} (dragged : e.draw.drag = some drag)
      (there : e.layer[drag.feature]? = some shape)
      (valid : e.session.ops.isValidFeature (Wrap.unwrapShape shape e.viewport.projection).toFeature)
      (edited : e.session.commitEdit (geographic (e.released drag shape).layer) = (session, .ok ())) :
      PointerUp e
        { e.released drag shape with
          session, draw := { e.draw.endDrag.1 with invalidDraw := false } }.withoutPreview.refreshed
        (.committed (geographic (e.released drag shape).layer))
  | invalid {drag : VertexDrag α} {shape : Shape α} (dragged : e.draw.drag = some drag)
      (there : e.layer[drag.feature]? = some shape)
      (invalid : ¬ e.session.ops.isValidFeature (Wrap.unwrapShape shape e.viewport.projection).toFeature) :
      PointerUp e
        { e.released drag shape with draw := { e.draw.endDrag.1 with invalidDraw := true }, nextEnabled := false }
        .invalid

/-- Letting go of the pointer ends in one of the ways listed. -/
theorem pointerUp_ends (e : Editor α) : PointerUp e e.pointerUp.1 e.pointerUp.2 := by
  cases hdrag : e.draw.drag with
  | none =>
    have h : e.pointerUp = (e, .idle) := by simp [pointerUp, hdrag]
    rw [h]
    exact .idle hdrag
  | some drag =>
    cases hshape : e.layer[drag.feature]? with
    | none =>
      have h : e.pointerUp = ({ e with draw := e.draw.endDrag.1, marker := none }, .idle) := by
        simp [pointerUp, hdrag, hshape]
      rw [h]
      exact .offLayer hdrag hshape
    | some shape =>
      have hfeature := released_feature hshape
      simp only [released] at hfeature
      by_cases hvalid : e.session.ops.isValidFeature (Wrap.unwrapShape shape e.viewport.projection).toFeature
      · rcases hedit : e.session.commitEdit (geographic (e.released drag shape).layer) with ⟨session, failure | _⟩
        · obtain ⟨hnone, -, rfl⟩ := Session.commitEdit_eq_error_iff.mp hedit
          have h : e.pointerUp = (e.released drag shape, .invalid) := by
            simp only [released] at hedit
            simp [pointerUp, hdrag, hshape, hfeature, PlanarOps.isValidPolygon_singleton, hvalid, hedit, released]
          rw [h]
          exact .unselected hdrag hshape hvalid hnone
        · have h : e.pointerUp =
              ({ e.released drag shape with
                  session, draw := { e.draw.endDrag.1 with invalidDraw := false } }.withoutPreview.refreshed,
                .committed (geographic (e.released drag shape).layer)) := by
            simp only [released] at hedit
            simp [pointerUp, hdrag, hshape, hfeature, PlanarOps.isValidPolygon_singleton, hvalid, hedit, released]
          rw [h]
          exact .committed hdrag hshape hvalid hedit
      · have h : e.pointerUp =
            ({ e.released drag shape with
                draw := { e.draw.endDrag.1 with invalidDraw := true }, nextEnabled := false }, .invalid) := by
          simp [pointerUp, hdrag, hshape, hfeature, PlanarOps.isValidPolygon_singleton, hvalid, released]
        rw [h]
        exact .invalid hdrag hshape hvalid

/-- The shape that is drawn by a ring: one polygon without holes, brought back into the valid extent. -/
def sketched (e : Editor α) (ring : Polyline α) : Shape α :=
  .polygon (.ofRings (ring.map (Wrap.unwrapCoord e.viewport.projection)) [])

/-- The ways in which finishing a drawing ends. -/
inductive DrawEnd (e : Editor α) (ring : Polyline α) : Editor α → DrawOutcome α → Prop where
  | ignored (normal : e.draw.mode.provenance? = none) : DrawEnd e ring e .ignored
  | degenerate {provenance : Provenance} (tool : e.draw.mode.provenance? = some provenance)
      (flat : DrawController.isDegenerate (.ofProjected (e.sketched ring))) : DrawEnd e ring e .degenerate
  | invalid (free : e.draw.mode = .drawFree)
      (wide : ¬ DrawController.isDegenerate (.ofProjected (e.sketched ring)))
      (invalid : ¬ e.session.ops.isValidPolygon (.ofProjected (e.sketched ring))) :
      DrawEnd e ring { e with draw := { e.draw with invalidDraw := true }, layer := [e.sketched ring] }
        (.invalid (e.sketched ring))
  | committed {provenance : Provenance} (tool : e.draw.mode.provenance? = some provenance)
      (wide : ¬ DrawController.isDegenerate (.ofProjected (e.sketched ring)))
      (valid : e.draw.mode = .drawFree → e.session.ops.isValidPolygon (.ofProjected (e.sketched ring))) :
      DrawEnd e ring
        { e with
          draw := { e.draw with invalidDraw := false, mode := .normal }, layer := [e.sketched ring]
          session := e.session.select (.ofProjected (e.sketched ring)) provenance Session.customTitle
            (drawnDescription provenance) }.withoutPreview.refreshed
        (.committed (e.sketched ring) (.ofProjected (e.sketched ring)) provenance)

/-- Finishing a drawing ends in one of the ways listed. -/
theorem drawEnd_ends (e : Editor α) (ring : Polyline α) :
    DrawEnd e ring (e.drawEnd ring).1 (e.drawEnd ring).2 := by
  cases htool : e.draw.mode.provenance? with
  | none =>
    have h : e.drawEnd ring = (e, .ignored) := by simp [drawEnd, DrawController.drawEnd, htool]
    rw [h]
    exact .ignored htool
  | some provenance =>
    by_cases hflat : DrawController.isDegenerate (.ofProjected (e.sketched ring))
    · have h : e.drawEnd ring = (e, .degenerate) := by
        simp only [sketched] at hflat
        simp [drawEnd, DrawController.drawEnd, htool, hflat]
      rw [h]
      exact .degenerate htool hflat
    · by_cases hvalid : e.draw.mode = .drawFree → e.session.ops.isValidPolygon (.ofProjected (e.sketched ring))
      · have h : e.drawEnd ring =
            ({ e with
                draw := { e.draw with invalidDraw := false, mode := .normal }, layer := [e.sketched ring]
                session := e.session.select (.ofProjected (e.sketched ring)) provenance Session.customTitle
                  (drawnDescription provenance) }.withoutPreview.refreshed,
              .committed (e.sketched ring) (.ofProjected (e.sketched ring)) provenance) := by
          simp only [sketched] at hflat hvalid
          have hjudged : (decide (e.draw.mode = .drawFree) && !e.session.ops.isValidPolygon (.ofProjected
              (.polygon (.ofRings (ring.map (Wrap.unwrapCoord e.viewport.projection)) [])))) = false := by
            simpa using hvalid
          simp [drawEnd, DrawController.drawEnd, DrawMode.transition, htool, hflat, hjudged, sketched]
        rw [h]
        exact .committed htool hflat hvalid
      · obtain ⟨hfree, hinvalid⟩ := Classical.not_imp.mp hvalid
        have h : e.drawEnd ring =
            ({ e with draw := { e.draw with invalidDraw := true }, layer := [e.sketched ring] },
              .invalid (e.sketched ring)) := by
          simp only [sketched] at hflat hinvalid
          simp [drawEnd, DrawController.drawEnd, DrawMode.provenance?, hflat, hfree, hinvalid, sketched]
        rw [h]
        exact .invalid hfree hflat hinvalid

end Editor

end AreaOfInterest
