import AreaOfInterest.Proofs.FlatWorld
import AreaOfInterest.Proofs.Sessions

/-!
# Cancelling is starting anew

What an editor holds is spread over its tools, its session and its map, and each of these could keep something of the
past. Cancelling keeps nothing of it: it leaves the editor that was there at the start, with the settings and the
planar operations of the start. Only the view is carried over, brought back into the valid extent.

So nothing that is done after a cancellation can tell what was done before. The runs that go on from it are, turn for
turn, the runs of that new editor.
-/

namespace AreaOfInterest

variable {α : Type} [Scalar α]

omit [Scalar α] in
/-- Two sessions that judge selections alike are the same one once the selection is dropped. -/
theorem Session.SameRules.clear_eq {s s' : Session α} (h : s.SameRules s') : s'.clear = s.clear := by
  obtain ⟨r, ops, maxBuffer, maxArea⟩ := s
  obtain ⟨r', ops', maxBuffer', maxArea'⟩ := s'
  obtain ⟨rfl, rfl, rfl⟩ := h
  rfl

variable [Surface α]

/-- No turn changes the settings. -/
theorem Turn.settings_eq (t : Turn α) : t.after.settings = t.before.settings := by
  cases t.course with
  | declined _ after | looked _ _ after | chosen _ _ _ after | cancelled _ after | began _ _ _ after
  | crossed _ _ _ after | drawn _ _ _ _ _ after | picked _ _ _ _ after | moved _ _ _ _ _ _ after
  | offLayer _ _ _ _ after | unselected _ _ _ _ _ after | edited _ _ _ _ _ _ after | rejected _ _ _ _ _ after
  | viewSelected _ _ after | selected _ _ after | previewed _ _ _ after | closed _ _ after | buffered _ _ _ after
  | reverted _ _ _ after => exact congrArg (fun e => e.settings) after

/-- A turn that drops the selection is a cancellation. -/
theorem Turn.after_of_clears {t : Turn α} (h : t.clears) : t.after = t.before.cancel := by
  obtain ⟨e, a⟩ := t
  cases a with
  | cancel => rfl
  | selectTool event => cases event <;> first | rfl | cases h
  | _ => cases h

namespace Editor

variable {settings : EditorSettings α} {ops : PlanarOps α} {history : History α} {e : Editor α}

omit [Surface α] in
/-- Cancelling leaves nothing but the settings, the rules of the session, and the view. -/
theorem cancel_eq (e : Editor α) :
    e.cancel =
      { settings := e.settings, viewport := e.viewport.snapped, session := e.session.clear, draw := .new,
        layer := [], marker := none, preview := none, pendingBuffer := 0.0, nextEnabled := false } := rfl

/-- A reached editor has the settings that it was made with. -/
theorem Reached.settings_eq (hr : Reached settings ops history e) : e.settings = settings := by
  induction hr with
  | new hnew =>
    obtain ⟨v, rfl⟩ := new?_eq_some hnew
    rfl
  | @act _ e a _ ih => exact (Turn.settings_eq ⟨e, a⟩).trans ih
  | view _ _ ih => exact ih

/-- Every run starts with a new editor. -/
theorem Reached.exists_new (hr : Reached settings ops history e) : ∃ fresh, new? settings ops = some fresh := by
  induction hr with
  | new hnew => exact ⟨_, hnew⟩
  | act _ _ ih | view _ _ ih => exact ih

/-- Whatever was done before, cancelling, in either way, leaves a new editor with the view that was there, brought back
into the valid extent. And the runs that go on from there are, turn for turn, those of that new editor. -/
theorem Reached.cancel_renews (hr : Reached settings ops history e) :
    ∃ fresh, new? settings ops = some fresh ∧ ∀ a, Turn.clears ⟨e, a⟩ →
      (e.step a).1 = { fresh with viewport := e.viewport.snapped } ∧
        ∀ later e', Reached settings ops (later ++ ⟨e, a⟩ :: history) e' ↔
          Leads { fresh with viewport := e.viewport.snapped } later e' := by
  obtain ⟨fresh, hfresh⟩ := hr.exists_new
  refine ⟨fresh, hfresh, fun a ha => ?_⟩
  have hafter : (Turn.mk e a).after = { fresh with viewport := e.viewport.snapped } := by
    obtain ⟨v, rfl⟩ := new?_eq_some hfresh
    rw [Turn.after_of_clears ha, cancel_eq, hr.settings_eq, hr.sameRules.clear_eq]
    rfl
  refine ⟨hafter, fun later e' => ?_⟩
  rw [← hafter]
  exact Reached.append_iff (t := ⟨e, a⟩) hr

/-- A box is selected, a crossed drawing is left on the map, a buffer is previewed, a corner of the drawing is dragged
along, and the view is moved to another world. -/
def disarranged : List (Action Rat) :=
  FlatWorld.boxDrawn ++
    [.selectTool .selectFree, .drawEnd FlatWorld.bowtie, .selectTool .finish, .previewBuffer 1000,
      .pointerDown (FlatWorld.start.viewport.pixelOf ⟨0, 0⟩),
      .pointerDrag (FlatWorld.start.viewport.pixelOf ⟨-100000000, -100000000⟩),
      .moveView (.setCenter ⟨5000000000, 0⟩)]

/-- Nothing is as it was at the start then, and after cancelling everything is, except for the centre of the view. -/
theorem cancel_renews_disarranged :
    let e := FlatWorld.start.run disarranged
    (e.session.record.isSome ∧ e.draw.invalidDraw ∧ e.draw.drag.isSome ∧ e.layer.length = 1 ∧ e.marker.isSome ∧
      e.preview.isSome ∧ e.pendingBuffer = 1000 ∧ e.nextEnabled ∧ e.viewport.center.x = 5000000000) ∧
      (e.step (.selectTool .cancel)).1 =
        { FlatWorld.start with viewport := FlatWorld.start.viewport.setCenter ⟨407741360, 0⟩ } := by
  intro e
  refine ⟨by decide +kernel, ?_⟩
  have hr : Reached .default FlatWorld.planarOps (FlatWorld.start.turns disarranged []) e :=
    (Reached.new FlatWorld.new?_eq_start).run disarranged
  obtain ⟨fresh, hfresh, hcancel⟩ := hr.cancel_renews
  cases hfresh.symm.trans FlatWorld.new?_eq_start
  have hview : e.viewport.snapped = FlatWorld.start.viewport.setCenter ⟨407741360, 0⟩ := by decide +kernel
  rw [← hview]
  exact (hcancel _ rfl).1

end Editor

end AreaOfInterest
