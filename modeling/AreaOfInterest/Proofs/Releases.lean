import AreaOfInterest.Proofs.Dragging
import AreaOfInterest.Proofs.Views

/-!
# Letting go of a vertex

When a dragged vertex is let go, its shape is brought back into the valid extent and judged, whatever planar operations
the editor was made with. If the shape is valid the whole layer is selected, and all that depends on the selection is
brought up to date with it. If it is not, the selection is left alone and the editor says so. There is nothing between
the two, and the drag is over in either case.
-/

namespace AreaOfInterest

variable {α : Type} [Scalar α]

namespace Editor

variable [Surface α]

variable {settings : EditorSettings α} {ops : PlanarOps α} {history : History α} {e : Editor α}
  {r : SelectionRecord α} {drag : VertexDrag α} {shape : Shape α}

/-- The editor after a valid shape was let go, with the layer that this leaves. -/
def afterValid (e : Editor α) (r : SelectionRecord α) (layer : List (Shape α)) (maxArea : Option α) : Editor α :=
  { e with
    layer
    draw := { e.draw with drag := none, invalidDraw := false }
    marker := none
    session := { e.session with record := some { r with working := geographic layer, base := geographic layer,
                                                        buffer := 0.0 } }
    preview := none
    pendingBuffer := 0.0
    nextEnabled := Session.isAcceptable (geographic layer) maxArea }

omit [Surface α] in
/-- The editor after a shape was let go that is not valid. -/
def afterInvalid (e : Editor α) (layer : List (Shape α)) : Editor α :=
  { e with layer, draw := { e.draw with drag := none, invalidDraw := true }, marker := none, nextEnabled := false }

/-- With a selection and a shape in its grip the pointer commits the layer when the shape is valid, and nothing
otherwise. -/
theorem pointerUp_eq (selected : e.session.record = some r) (dragged : e.draw.drag = some drag)
    (there : e.layer[drag.feature]? = some shape) :
    let unwrapped := Wrap.unwrapShape shape e.viewport.projection
    let layer := e.layer.set drag.feature unwrapped
    e.pointerUp = if e.session.ops.isValidFeature unwrapped.toFeature then
      (e.afterValid r layer e.session.maxArea, .committed (geographic layer)) else (e.afterInvalid layer, .invalid) := by
  intro unwrapped layer
  have hend := e.pointerUp_ends
  rw [← Prod.eta e.pointerUp]
  generalize e.pointerUp.1 = e', e.pointerUp.2 = outcome at hend
  cases hend with
  | idle nothing => cases nothing.symm.trans dragged
  | offLayer dragged' gone =>
    cases dragged'.symm.trans dragged
    cases gone.symm.trans there
  | unselected _ _ _ unselected => cases unselected.symm.trans selected
  | committed dragged' there' valid edited =>
    cases dragged'.symm.trans dragged
    cases there'.symm.trans there
    obtain ⟨r', hr', rfl⟩ := Session.commitEdit_eq_ok_iff.mp edited
    cases hr'.symm.trans selected
    rw [if_pos valid]
    rfl
  | invalid dragged' there' invalid =>
    cases dragged'.symm.trans dragged
    cases there'.symm.trans there
    rw [if_neg invalid]
    rfl

/-- In every reached editor with a selection and a dragged shape on the layer, letting go of it commits exactly when
the shape is valid. Then the whole layer takes the place of the working shape and of the base of buffers, and what was
first selected and the labels stay. Otherwise the selection stays, and the signals tell. -/
theorem Reached.release_commits_iff (hr : Reached settings ops history e) (selected : e.session.record = some r)
    (dragged : e.draw.drag = some drag) (there : e.layer[drag.feature]? = some shape) :
    let unwrapped := Wrap.unwrapShape shape .world
    let layer := e.layer.set drag.feature unwrapped
    let valid := ops.isValidPolygon (geographic [unwrapped])
    ((∃ c, e.pointerUp.2 = .committed c) ↔ valid) ∧
      (valid → e.pointerUp = (e.afterValid r layer settings.maxArea, .committed (geographic layer))) ∧
      (¬ valid → e.pointerUp = (e.afterInvalid layer, .invalid)) := by
  intro unwrapped layer valid
  have hrules := hr.sameRules
  have hup : e.pointerUp = if valid then (e.afterValid r layer settings.maxArea, .committed (geographic layer))
      else (e.afterInvalid layer, .invalid) := by
    have h := pointerUp_eq selected dragged there
    rwa [hr.built.projection_eq, hrules.ops, hrules.maxArea] at h
  by_cases hvalid : valid
  · rw [if_pos hvalid] at hup
    exact ⟨iff_of_true ⟨_, congrArg Prod.snd hup⟩ hvalid, fun _ => hup, fun hinvalid => absurd hvalid hinvalid⟩
  · rw [if_neg hvalid] at hup
    refine ⟨iff_of_false ?_ hvalid, fun h => absurd h hvalid, fun _ => hup⟩
    rintro ⟨c, hc⟩
    rw [hup] at hc
    cases hc

/-- On the flat world the corner of a box is dragged outwards and let go, and the larger box is selected. -/
theorem release_commits_cornerDragged :
    let e := FlatWorld.start.run cornerDragged
    ∃ r drag shape, e.session.record = some r ∧ e.draw.drag = some drag ∧ e.layer[drag.feature]? = some shape ∧
      FlatWorld.planarOps.isValidPolygon (geographic [Wrap.unwrapShape shape .world]) ∧
      e.pointerUp.2 = .committed (geographic (e.layer.set drag.feature (Wrap.unwrapShape shape .world))) := by
  intro e
  have hr := (Reached.new FlatWorld.new?_eq_start).run cornerDragged
  have hselected : e.session.record.isSome := by decide +kernel
  have hdragged : e.draw.drag = some ⟨0, 0, 0, ⟨-100000000, -100000000⟩⟩ := by decide +kernel
  have hvalid : e.layer[0]?.any fun shape =>
      FlatWorld.planarOps.isValidPolygon (geographic [Wrap.unwrapShape shape .world]) := by decide +kernel
  obtain ⟨r, hrecord⟩ := Option.isSome_iff_exists.mp hselected
  obtain ⟨shape, hshape, hshapeValid⟩ := (Option.any_eq_true _ _).mp hvalid
  refine ⟨r, _, shape, hrecord, hdragged, hshape, hshapeValid, ?_⟩
  rw [(hr.release_commits_iff hrecord hdragged hshape).2.1 hshapeValid]

end Editor

end AreaOfInterest
