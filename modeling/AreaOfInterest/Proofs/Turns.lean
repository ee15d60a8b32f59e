import AreaOfInterest.Proofs.Outcomes
import AreaOfInterest.Proofs.Runs

/-!
# The courses of a turn

Whatever is done with an editor comes to one of the courses listed here. Each names the actions that it belongs to,
the conditions under which it is taken, the answer where it tells courses apart, and the whole editor that it leaves.

So what a turn does to a part of the editor is read off the list, and no step has to be carried out again for it.
-/

namespace AreaOfInterest

variable {α : Type} [Scalar α]

/-- Actions that look at the map: they move the view, or the highlight with it. -/
def Action.looks : Action α → Bool
  | .pointerMove _ | .zoomToSelection | .resetMap | .moveView _ => true
  | _ => false

/-- Actions that select something found or imported. -/
def Action.selects : Action α → Bool
  | .applyPlace _ | .importFeatures .. => true
  | _ => false

/-- What an action selects as it is given: a place that was found, or features that are imported. -/
def Action.given? : Action α → Option (FeatureCollection α × Provenance)
  | .applyPlace place => some (.single place.feature, .search)
  | .importFeatures c _ => some (c, .imported)
  | _ => none

omit [Scalar α] in
/-- An action that selects something found or imported has a collection to select. -/
theorem Action.given_of_selects {a : Action α} (h : a.selects) : ∃ given, a.given? = some given := by
  cases a with
  | applyPlace place => exact ⟨_, rfl⟩
  | importFeatures c name => exact ⟨_, rfl⟩
  | _ => cases h

variable [Surface α]

/-- Whether a turn comes to nothing: it is refused, there is no tool or no area to draw with, no vertex below the
pointer or in its grip, or no area left by the move. -/
def Turn.declines (t : Turn α) : Bool :=
  match t.action, t.reply with
  | _, .refused _ => true
  | .drawStart, .done => !t.before.draw.mode.isDrawing
  | .drawEnd _, .drawn .ignored | .drawEnd _, .drawn .degenerate => true
  | .pointerDown _, .picked started => !started
  | .pointerDrag _, .dragged .idle | .pointerDrag _, .dragged .rejected => true
  | .pointerUp, _ => t.before.draw.drag.isNone
  | _, _ => false

namespace Editor

variable {e e' : Editor α}

omit [Surface α] in
/-- Fitting the view to the layer changes the view alone. -/
theorem zoomToSelection_eq (e : Editor α) : ∃ v, e.zoomToSelection = { e with viewport := v } := by
  unfold zoomToSelection
  split
  · exact ⟨e.viewport, rfl⟩
  · exact ⟨_, rfl⟩
  · split
    · exact ⟨_, rfl⟩
    · exact ⟨e.viewport, rfl⟩

omit [Surface α] in
/-- Moving the pointer over the map changes the highlight, and brings the view back into the valid extent at most. -/
theorem pointerMove_eq (e : Editor α) (pixel : Coord α) :
    ∃ v marker, (e.pointerMove pixel).1 = { e with viewport := v, marker } := by
  unfold pointerMove
  split
  · exact ⟨_, _, rfl⟩
  · split <;> exact ⟨_, _, rfl⟩

/-- Asking for a preview is refused, or shows the one of the session with its distance pending. -/
theorem previewBuffer_ends (e : Editor α) (distance : α) :
    (∃ failure, e.step (.previewBuffer distance) = (e, .refused failure)) ∨
      ∃ c, e.session.previewBuffer distance = .ok c ∧
        e.step (.previewBuffer distance) = ({ e with preview := some c, pendingBuffer := distance }, .previewed c) := by
  rw [step]
  split
  · next e' c h =>
    obtain ⟨hpreview, rfl⟩ := previewBuffer_eq_ok_iff.mp h
    exact .inr ⟨c, hpreview, rfl⟩
  · next e' failure h =>
    obtain ⟨-, rfl⟩ := previewBuffer_eq_error_iff.mp h
    exact .inl ⟨failure, rfl⟩

/-- The editor after a drawing was accepted: it is selected, and its tool is left. -/
def drawn (e : Editor α) (ring : Polyline α) (provenance : Provenance) : Editor α :=
  { e with
    draw := { e.draw with invalidDraw := false, mode := .normal }, layer := [e.sketched ring]
    session := e.session.select (.ofProjected (e.sketched ring)) provenance Session.customTitle
      (drawnDescription provenance) }.withoutPreview.refreshed

/-- The editor after the layer with a released shape was selected. -/
def edited (e : Editor α) (drag : VertexDrag α) (shape : Shape α) (session : Session α) : Editor α :=
  { e.released drag shape with
    session, draw := { e.draw.endDrag.1 with invalidDraw := false } }.withoutPreview.refreshed

omit [Surface α] in
/-- The editor after a released shape was found invalid. -/
def rejected (e : Editor α) (drag : VertexDrag α) (shape : Shape α) : Editor α :=
  { e.released drag shape with draw := { e.draw.endDrag.1 with invalidDraw := true }, nextEnabled := false }

end Editor

namespace Turn

/-- The courses that a turn can take. -/
inductive Course (t : Turn α) : Prop where
  | declined (declines : t.declines) (after : t.after = t.before)
  | looked {v : Viewport α} {marker : Option (Coord α)} (action : t.action.looks)
      (reply : t.reply = .done ∨ ∃ highlight, t.reply = .highlighted highlight)
      (after : t.after = { t.before with viewport := v, marker })
  | chosen {event : ToolEvent} (action : t.action = .selectTool event) (reply : t.reply = .mode t.after.draw.mode)
      (event_ne : event ≠ .cancel)
      (after : t.after = { t.before with marker := none }.handle event)
  | cancelled (action : t.action = .cancel ∧ t.reply = .done ∨ t.action = .selectTool .cancel ∧ t.reply = .mode .normal)
      (after : t.after = t.before.cancel)
  | began (action : t.action = .drawStart) (reply : t.reply = .done) (tool : t.before.draw.mode ≠ .normal)
      (after : t.after = { t.before with layer := [] })
  | crossed {ring : Polyline α} (action : t.action = .drawEnd ring)
      (reply : t.reply = .drawn (.invalid (t.before.sketched ring))) (free : t.before.draw.mode = .drawFree)
      (after : t.after =
        { t.before with draw := { t.before.draw with invalidDraw := true }, layer := [t.before.sketched ring] })
  | drawn {ring : Polyline α} {provenance : Provenance} (action : t.action = .drawEnd ring)
      (reply : t.reply =
        .drawn (.committed (t.before.sketched ring) (.ofProjected (t.before.sketched ring)) provenance))
      (tool : t.before.draw.mode.provenance? = some provenance)
      (wide : ¬ DrawController.isDegenerate (.ofProjected (t.before.sketched ring)))
      (valid : t.before.draw.mode = .drawFree →
        t.before.session.ops.isValidPolygon (.ofProjected (t.before.sketched ring)))
      (after : t.after = t.before.drawn ring provenance)
  | picked {pixel : Coord α} {drag : VertexDrag α} (action : t.action = .pointerDown pixel)
      (reply : t.reply = .picked true) (normal : t.before.draw.mode = .normal)
      (hit : t.before.hitVertex? pixel = some drag)
      (after : t.after = { t.before with draw := { t.before.draw with drag := some drag } })
  | moved {pixel : Coord α} {drag : VertexDrag α} {shape : Shape α} {polygon : Polygon α} {ring : Polyline α}
      (action : t.action = .pointerDrag pixel) (reply : t.reply = .dragged .moved)
      (dragged : t.before.draw.drag = some drag) (there : t.before.layer[drag.feature]? = some shape)
      (part : shape.polygonAt? drag.polygon = some polygon)
      (accepted : Ring.drag? polygon.exterior drag (t.before.viewport.coordAt pixel) = some ring)
      (after : t.after = t.before.moved drag shape polygon ring (t.before.viewport.coordAt pixel))
  | offLayer {drag : VertexDrag α} (action : t.action = .pointerUp) (reply : t.reply = .dragged .idle)
      (dragged : t.before.draw.drag = some drag) (gone : t.before.layer[drag.feature]? = none)
      (after : t.after = { t.before with draw := t.before.draw.endDrag.1, marker := none })
  | unselected {drag : VertexDrag α} {shape : Shape α} (action : t.action = .pointerUp)
      (reply : t.reply = .dragged .invalid) (dragged : t.before.draw.drag = some drag)
      (there : t.before.layer[drag.feature]? = some shape) (record : t.before.session.record = none)
      (after : t.after = t.before.released drag shape)
  | edited {drag : VertexDrag α} {shape : Shape α} {session : Session α} (action : t.action = .pointerUp)
      (reply : t.reply = .dragged (.committed (Editor.geographic (t.before.released drag shape).layer)))
      (dragged : t.before.draw.drag = some drag) (there : t.before.layer[drag.feature]? = some shape)
      (valid : t.before.session.ops.isValidFeature (Wrap.unwrapShape shape t.before.viewport.projection).toFeature)
      (committed : t.before.session.commitEdit (Editor.geographic (t.before.released drag shape).layer) =
        (session, .ok ()))
      (after : t.after = t.before.edited drag shape session)
  | rejected {drag : VertexDrag α} {shape : Shape α} (action : t.action = .pointerUp)
      (reply : t.reply = .dragged .invalid) (dragged : t.before.draw.drag = some drag)
      (there : t.before.layer[drag.feature]? = some shape)
      (invalid :
        ¬ t.before.session.ops.isValidFeature (Wrap.unwrapShape shape t.before.viewport.projection).toFeature)
      (after : t.after = t.before.rejected drag shape)
  | viewSelected (action : t.action = .selectMapView) (reply : t.reply = .selected t.after.working)
      (after : t.after = t.before.selectMapView)
  | selected {c : FeatureCollection α} {provenance : Provenance} {title description : String} {v : Viewport α}
      (action : t.action.selects) (reply : t.reply = .done)
      (after : t.after =
        { { t.before.handle .cancel with
            session := t.before.session.select c provenance title description }.showWorking with viewport := v })
  | previewed {distance : α} {c : FeatureCollection α} (action : t.action = .previewBuffer distance)
      (reply : t.reply = .previewed c) (computed : t.before.session.previewBuffer distance = .ok c)
      (after : t.after = { t.before with preview := some c, pendingBuffer := distance })
  | closed (action : t.action = .closeBufferDialog) (reply : t.reply = .done)
      (after : t.after = t.before.withoutPreview)
  | buffered {distance : α} {session : Session α} {c : FeatureCollection α}
      (action : t.action = .applyBuffer distance ∨ t.action = .commitBuffer) (reply : t.reply = .done)
      (applied : t.before.session.applyBuffer distance = (session, .ok c))
      (after : t.after = { t.before with session }.showWorking)
  | reverted {session : Session α} {c : FeatureCollection α} (action : t.action = .revert) (reply : t.reply = .done)
      (reverted : t.before.session.revert = (session, .ok c))
      (after : t.after = { t.before with session, draw := { t.before.draw with invalidDraw := false } }.showWorking)

/-- A turn that is refused declines. -/
theorem declines_of_refused {t : Turn α} {failure : Failure α} (hreply : t.reply = .refused failure) : t.declines := by
  unfold declines
  rw [hreply]

/-- Of a turn that may be refused it has to be said what a refusal leaves, and what comes about else. -/
theorem course_of_settled {t : Turn α} {answer : Editor α × Except (Failure α) Unit}
    (step : t.before.step t.action = (answer.1, .ofResult answer.2))
    (refused : ∀ failure, answer = (t.after, .error failure) → t.after = t.before)
    (done : t.reply = .done → answer = (t.after, .ok ()) → t.Course) : t.Course := by
  obtain ⟨failure, hrefused, hreply⟩ | ⟨hdone, hreply⟩ := settled_cases step
  · exact .declined (declines_of_refused hreply) (refused failure hrefused)
  · exact done hreply hdone

/-- A successful buffer, in whichever way it was asked for. -/
theorem course_of_applyBuffer {t : Turn α} {distance : α}
    (action : t.action = .applyBuffer distance ∨ t.action = .commitBuffer) (reply : t.reply = .done)
    (applied : t.before.applyBuffer distance = (t.after, .ok ())) : t.Course := by
  obtain ⟨session, c, hsession, hafter⟩ := Editor.applyBuffer_eq_ok_iff.mp applied
  exact .buffered action reply hsession hafter

/-- A selection that is found or imported is put on the map, and the view is fitted to it. -/
theorem course_of_selected {t : Turn α} {c : FeatureCollection α} {provenance : Provenance}
    {title description : String} (action : t.action.selects) (reply : t.reply = .done)
    (after : t.after =
      { t.before.handle .cancel with
        session := t.before.session.select c provenance title description }.showWorking.zoomToSelection) :
    t.Course := by
  obtain ⟨v, hv⟩ := Editor.zoomToSelection_eq
    { t.before.handle .cancel with session := t.before.session.select c provenance title description }.showWorking
  exact .selected action reply (after.trans hv)

/-- What is found or imported is selected as it is given and put on the map, and the view is fitted to it. -/
theorem after_of_given {t : Turn α} {c : FeatureCollection α} {provenance : Provenance}
    (given : t.action.given? = some (c, provenance)) :
    ∃ title description v, t.after =
      { { t.before.handle .cancel with
          session := t.before.session.select c provenance title description }.showWorking with viewport := v } := by
  obtain ⟨e, a⟩ := t
  cases a with
  | applyPlace place =>
    cases given
    obtain ⟨v, hv⟩ := Editor.zoomToSelection_eq
      { e.handle .cancel with session := e.session.selectPlace place }.showWorking
    exact ⟨_, _, v, hv⟩
  | importFeatures c name =>
    cases given
    obtain ⟨v, hv⟩ := Editor.zoomToSelection_eq
      { e.handle .cancel with session := e.session.selectImport c name }.showWorking
    exact ⟨_, _, v, hv⟩
  | _ => cases given

/-- Every turn takes one of the courses. -/
theorem course (t : Turn α) : t.Course := by
  obtain ⟨e, a⟩ := t
  cases a with
  | selectTool event =>
    by_cases hcancel : event = .cancel
    · subst hcancel
      exact .cancelled (.inr ⟨rfl, rfl⟩) rfl
    · exact .chosen rfl rfl hcancel (by simp [after, Editor.step, Editor.selectTool, hcancel])
  | cancel => exact .cancelled (.inl ⟨rfl, rfl⟩) rfl
  | drawStart =>
    by_cases htool : e.draw.mode.isDrawing
    · exact .began rfl rfl (by simpa [DrawMode.isDrawing] using htool)
        (by simp [after, Editor.step, Editor.drawStart, htool])
    · have hreply : reply ⟨e, .drawStart⟩ = .done := rfl
      exact .declined (by simp [declines, hreply, htool]) (by simp [after, Editor.step, Editor.drawStart, htool])
  | drawEnd ring =>
    have hend := e.drawEnd_ends ring
    have hafter : after ⟨e, .drawEnd ring⟩ = (e.drawEnd ring).1 := rfl
    have hreply : reply ⟨e, .drawEnd ring⟩ = .drawn (e.drawEnd ring).2 := rfl
    generalize (e.drawEnd ring).1 = e', (e.drawEnd ring).2 = outcome at hend hafter hreply
    cases hend with
    | ignored | degenerate => exact .declined (by simp [declines, hreply]) hafter
    | invalid free => exact .crossed rfl hreply free hafter
    | committed tool wide valid => exact .drawn rfl hreply tool wide valid hafter
  | pointerDown pixel =>
    have hend := e.pointerDown_ends pixel
    have hafter : after ⟨e, .pointerDown pixel⟩ = (e.pointerDown pixel).1 := rfl
    have hreply : reply ⟨e, .pointerDown pixel⟩ = .picked (e.pointerDown pixel).2 := rfl
    generalize (e.pointerDown pixel).1 = e', (e.pointerDown pixel).2 = started at hend hafter hreply
    cases hend with
    | missed => exact .declined (by simp [declines, hreply]) hafter
    | picked normal hit => exact .picked rfl hreply normal hit hafter
  | pointerDrag pixel =>
    have hend := e.pointerDrag_ends pixel
    have hafter : after ⟨e, .pointerDrag pixel⟩ = (e.pointerDrag pixel).1 := rfl
    have hreply : reply ⟨e, .pointerDrag pixel⟩ = .dragged (e.pointerDrag pixel).2 := rfl
    generalize (e.pointerDrag pixel).1 = e', (e.pointerDrag pixel).2 = outcome at hend hafter hreply
    cases hend with
    | idle | rejected => exact .declined (by simp [declines, hreply]) hafter
    | moved dragged there part accepted => exact .moved rfl hreply dragged there part accepted hafter
  | pointerUp =>
    have hend := e.pointerUp_ends
    have hafter : after ⟨e, .pointerUp⟩ = e.pointerUp.1 := rfl
    have hreply : reply ⟨e, .pointerUp⟩ = .dragged e.pointerUp.2 := rfl
    generalize e.pointerUp.1 = e', e.pointerUp.2 = outcome at hend hafter hreply
    cases hend with
    | idle nothing => exact .declined (by simp [declines, hreply, nothing]) hafter
    | offLayer dragged gone => exact .offLayer rfl hreply dragged gone hafter
    | unselected dragged there valid unselected => exact .unselected rfl hreply dragged there unselected hafter
    | committed dragged there valid edited => exact .edited rfl hreply dragged there valid edited hafter
    | invalid dragged there invalid => exact .rejected rfl hreply dragged there invalid hafter
  | pointerMove pixel =>
    obtain ⟨v, marker, hmove⟩ := e.pointerMove_eq pixel
    exact .looked rfl (.inr ⟨_, rfl⟩) hmove
  | selectMapView => exact .viewSelected rfl rfl rfl
  | applyPlace place => exact course_of_selected rfl rfl rfl
  | importFeatures c name => exact course_of_selected rfl rfl rfl
  | previewBuffer distance =>
    obtain ⟨failure, hstep⟩ | ⟨c, hc, hstep⟩ := e.previewBuffer_ends distance
    · exact .declined (declines_of_refused (congrArg Prod.snd hstep)) (congrArg Prod.fst hstep)
    · exact .previewed rfl (congrArg Prod.snd hstep) hc (congrArg Prod.fst hstep)
  | commitBuffer =>
    refine course_of_settled rfl (fun failure hrefused => ?_) fun hreply hdone => ?_
    · exact (Editor.commitBuffer_eq_error_iff.mp hrefused).2
    · exact course_of_applyBuffer (.inr rfl) hreply (Editor.commitBuffer_eq_ok_iff.mp hdone).2
  | closeBufferDialog => exact .closed rfl rfl rfl
  | applyBuffer distance =>
    refine course_of_settled rfl (fun failure hrefused => ?_) fun hreply hdone => ?_
    · exact (Editor.applyBuffer_eq_error_iff.mp hrefused).2
    · exact course_of_applyBuffer (.inl rfl) hreply hdone
  | revert =>
    refine course_of_settled rfl (fun failure hrefused => ?_) fun hreply hdone => ?_
    · exact (Editor.revert_eq_error_iff.mp hrefused).2.2
    · obtain ⟨session, c, hsession, hafter⟩ := Editor.revert_eq_ok_iff.mp hdone
      exact .reverted rfl hreply hsession hafter
  | zoomToSelection =>
    obtain ⟨v, hv⟩ := e.zoomToSelection_eq
    exact .looked rfl (.inl rfl) hv
  | resetMap => exact .looked rfl (.inl rfl) rfl
  | moveView m => exact .looked rfl (.inl rfl) rfl

end Turn

end AreaOfInterest
