import AreaOfInterest.Proofs.Sessions

/-!
# The view of an editor

Whatever is done with an editor, its viewport is one that can be made by the operations of viewports alone. None of
these changes the projection, so that what the map shows is always the same world.
-/

namespace AreaOfInterest

variable {α : Type} [Scalar α]

namespace Viewport

/-- Fitting an extent keeps the projection. -/
theorem projection_fitExtent (v : Viewport α) (e : Extent α) : (v.fitExtent e).projection = v.projection := by
  unfold fitExtent
  dsimp only
  split <;> rfl

/-- Fitting a shape keeps the projection. -/
theorem projection_fitShape (v : Viewport α) (s : Shape α) : (v.fitShape s).projection = v.projection := by
  unfold fitShape
  split
  · rfl
  · split
    · exact projection_fitExtent v _
    · rfl

/-- Bringing the centre back keeps the projection. -/
theorem projection_snapped (v : Viewport α) : v.snapped.projection = v.projection := by
  unfold snapped
  split <;> rfl

/-- Moving the view keeps the projection. -/
theorem projection_move (v : Viewport α) (m : Move α) : (v.move m).projection = v.projection := by
  cases m with
  | setCenter | setZoom | setResolution => rfl
  | fitExtent e => exact projection_fitExtent v e
  | fitShape s => exact projection_fitShape v s
  | resetToWorld => exact projection_fitExtent v _
  | snap => exact projection_snapped v

/-- Every viewport that can be made shows the same world. -/
theorem Built.projection_eq {v : Viewport α} (h : v.Built) : v.projection = .world := by
  induction h with
  | new => rfl
  | withTileSize _ hsome ih =>
    unfold withTileSize? at hsome
    dsimp only at hsome
    split at hsome
    · cases hsome
      exact ih
    · cases hsome
  | withZoomLimits _ hsome ih =>
    unfold withZoomLimits? at hsome
    dsimp only at hsome
    split at hsome
    · cases hsome
      exact ih
    · cases hsome
  | move m _ ih => rw [projection_move, ih]

end Viewport

namespace Editor

/-- Fitting the view to the layer moves it. -/
theorem built_zoomToSelection {e : Editor α} (h : e.viewport.Built) : e.zoomToSelection.viewport.Built := by
  unfold zoomToSelection
  split
  · exact h
  · exact h.move (.fitShape _)
  · split
    · exact h.move (.fitExtent _)
    · exact h

/-- Moving the pointer brings the view back at most. -/
theorem built_pointerMove {e : Editor α} (h : e.viewport.Built) (pixel : Coord α) :
    (e.pointerMove pixel).1.viewport.Built := by
  unfold pointerMove
  split
  · exact h
  · split
    · exact h
    · exact h.move .snap

end Editor

variable [Surface α]

/-- What the map shows is selected like a drawing around it. -/
theorem Editor.selectMapView_sketched (e : Editor α) :
    ∃ ring, e.selectMapView.layer = [e.sketched ring] ∧
      e.selectMapView.working = some (.ofProjected (e.sketched ring)) := by
  refine ⟨(e.handle .cancel).viewport.extent.ring, ?_⟩
  have hsketched : e.sketched (e.handle .cancel).viewport.extent.ring =
      .polygon (Wrap.unwrapExtent (e.handle .cancel).viewport.extent (e.handle .cancel).viewport.projection).polygon := by
    have hprojection : (e.handle .cancel).viewport.projection = e.viewport.projection := Viewport.projection_snapped _
    rw [hprojection]
    rfl
  rw [hsketched]
  exact ⟨rfl, rfl⟩

/-- Whatever is done, the view is moved at most. -/
theorem Turn.built (t : Turn α) (h : t.before.viewport.Built) : t.after.viewport.Built := by
  have hsnapped := h.move .snap
  cases t.course with
  | @looked v marker action _ after =>
    obtain ⟨e, a⟩ := t
    cases a with
    | pointerMove pixel => exact Editor.built_pointerMove h pixel
    | zoomToSelection => exact Editor.built_zoomToSelection h
    | resetMap => exact h.move .resetToWorld
    | moveView m => exact h.move m
    | _ => cases action
  | selected action _ _ =>
    obtain ⟨e, a⟩ := t
    cases a with
    | applyPlace | importFeatures => exact Editor.built_zoomToSelection hsnapped
    | _ => cases action
  | chosen _ _ _ after | cancelled _ after | viewSelected _ _ after =>
    rw [after]
    exact hsnapped
  | declined _ after | began _ _ _ after | crossed _ _ _ after | drawn _ _ _ _ _ after | picked _ _ _ _ after
  | moved _ _ _ _ _ _ after | offLayer _ _ _ _ after | unselected _ _ _ _ _ after | edited _ _ _ _ _ _ after
  | rejected _ _ _ _ _ after | previewed _ _ _ after | closed _ _ after | buffered _ _ _ after
  | reverted _ _ _ after =>
    rw [after]
    exact h

namespace Editor

variable {settings : EditorSettings α} {ops : PlanarOps α} {history : History α} {e : Editor α}

/-- The viewport of a reached editor is one that can be made. -/
theorem Reached.built (hr : Reached settings ops history e) : e.viewport.Built := by
  induction hr with
  | new hnew =>
    simp only [new?, Option.bind_eq_bind, Option.bind_eq_some_iff] at hnew
    obtain ⟨v, hv, w, hw, h⟩ := hnew
    cases h
    exact (((Viewport.Built.new _ _).withTileSize hv).withZoomLimits hw).move (.setZoom _)
  | @act _ e a _ ih => exact Turn.built ⟨e, a⟩ ih
  | view _ built _ => exact built

end Editor

end AreaOfInterest
