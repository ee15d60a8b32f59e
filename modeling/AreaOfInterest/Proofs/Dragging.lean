import AreaOfInterest.Proofs.Sessions
import AreaOfInterest.Proofs.Vertices

/-!
# Dragged vertices

A drag names its vertex by places: of the shape on the layer, of the polygon in the shape and of the vertex in the
ring. Picking a vertex and moving it keep the vertex there, and the drawing tools take the layer only while nothing
is dragged.

Putting another selection onto the layer does not end a drag. So a drag can be left without its vertex, and the last
statement says that it comes about in no other way, apart from coordinates that are not finite.
-/

namespace AreaOfInterest

variable {α : Type} [Scalar α]

/-- The vertex that a drag names is on a layer, at the position that the drag remembers. -/
def VertexDrag.LiveOn (drag : VertexDrag α) (layer : List (Shape α)) : Prop :=
  ∃ shape polygon, layer[drag.feature]? = some shape ∧ shape.polygonAt? drag.polygon = some polygon ∧
    polygon.exterior[drag.vertex]? = some drag.coordinate

namespace Editor

variable {e : Editor α}

/-- Whatever is dragged is on the layer. -/
def DragLive (e : Editor α) : Prop := ∀ drag, e.draw.drag = some drag → drag.LiveOn e.layer

/-- A vertex that is hit within a shape is a vertex of one of its polygons. -/
theorem hitInShape?_eq_some {pixel : Coord α} {feature : Nat} {shape : Shape α} {drag : VertexDrag α}
    (h : e.hitInShape? pixel feature shape = some drag) :
    drag.feature = feature ∧ ∃ polygon, shape.polygonAt? drag.polygon = some polygon ∧
      polygon.exterior[drag.vertex]? = some drag.coordinate := by
  obtain ⟨⟨polygon, i⟩, hmem, hhit⟩ := List.exists_of_findSome?_eq_some h
  obtain ⟨⟨vertex, coordinate⟩, hvertex, rfl⟩ := Option.map_eq_some_iff.mp hhit
  refine ⟨rfl, polygon, ?_, Ring.getElem?_of_findVertex? hvertex⟩
  rw [Shape.polygonAt?_eq]
  exact List.mk_mem_zipIdx_iff_getElem?.mp hmem

/-- A vertex that is hit is on the layer. -/
theorem liveOn_of_hitVertex? {pixel : Coord α} {drag : VertexDrag α} (h : e.hitVertex? pixel = some drag) :
    drag.LiveOn e.layer := by
  obtain ⟨⟨shape, i⟩, hmem, hhit⟩ := List.exists_of_findSome?_eq_some h
  obtain ⟨hfeature, polygon, hpolygon, hvertex⟩ := hitInShape?_eq_some hhit
  refine ⟨shape, polygon, ?_, hpolygon, hvertex⟩
  rw [hfeature]
  exact List.mk_mem_zipIdx_iff_getElem?.mp hmem

/-- A dragged vertex that is moved is still on the layer, at the place it was moved to. -/
theorem dragLive_moved [SelfClose α] {drag : VertexDrag α} {shape : Shape α} {polygon : Polygon α}
    {ring : Polyline α} {target : Coord α} (live : drag.LiveOn e.layer) (hfinite : drag.coordinate.IsFinite)
    (there : e.layer[drag.feature]? = some shape) (part : shape.polygonAt? drag.polygon = some polygon)
    (accepted : Ring.drag? polygon.exterior drag target = some ring) :
    (e.moved drag shape polygon ring target).DragLive := by
  obtain ⟨shape₁, polygon₁, hshape, hpolygon, hvertex⟩ := live
  cases there.symm.trans hshape
  cases part.symm.trans hpolygon
  intro drag₁ hdrag
  cases hdrag
  have hlt : drag.feature < e.layer.length := (List.getElem?_eq_some_iff.mp there).1
  have hmoved : ring[drag.vertex]? = some target := Ring.getElem?_of_drag? accepted hvertex hfinite
  refine ⟨shape.setPolygon drag.polygon (polygon.withExterior ring), polygon.withExterior ring, ?_, ?_, ?_⟩
  · simp [moved, hlt]
  · exact Shape.polygonAt?_setPolygon part _
  · exact Ring.getElem?_close hmoved

end Editor

variable [Surface α]

namespace Turn

/-- Whether a turn puts a selection onto the layer. -/
def reloads (t : Turn α) : Bool :=
  match t.action, t.reply with
  | .selectMapView, _ | .applyPlace _, _ | .importFeatures .., _ => true
  | .commitBuffer, .done | .applyBuffer _, .done | .revert, .done => true
  | _, _ => false

/-- A turn moves a vertex away from a position that is not finite. -/
def MovesNonFinite (t : Turn α) : Prop :=
  ∃ pixel drag, t.action = .pointerDrag pixel ∧ t.before.draw.drag = some drag ∧ ¬ drag.coordinate.IsFinite

/-- The ways in which a turn changes what is dragged, and the layer below it. -/
inductive Grip (t : Turn α) : Prop where
  | kept (drag : t.after.draw.drag = t.before.draw.drag) (layer : t.after.layer = t.before.layer)
      (mode : t.after.draw.mode = t.before.draw.mode ∨ t.after.draw.mode = .normal)
  | dropped (drag : t.after.draw.drag = none)
  | drawn (tool : t.before.draw.mode ≠ .normal) (drag : t.after.draw.drag = t.before.draw.drag)
  | picked {pixel : Coord α} {drag : VertexDrag α} (hit : t.before.hitVertex? pixel = some drag)
      (drag : t.after.draw.drag = some drag) (layer : t.after.layer = t.before.layer)
      (mode : t.after.draw.mode = .normal)
  | moved {pixel : Coord α} {drag : VertexDrag α} {shape : Shape α} {polygon : Polygon α} {ring : Polyline α}
      (action : t.action = .pointerDrag pixel) (dragged : t.before.draw.drag = some drag)
      (there : t.before.layer[drag.feature]? = some shape) (part : shape.polygonAt? drag.polygon = some polygon)
      (accepted : Ring.drag? polygon.exterior drag (t.before.viewport.coordAt pixel) = some ring)
      (after : t.after = t.before.moved drag shape polygon ring (t.before.viewport.coordAt pixel))
  | reloaded (reloads : t.reloads) (drag : t.after.draw.drag = t.before.draw.drag)
      (mode : t.after.draw.mode = t.before.draw.mode ∨ t.after.draw.mode = .normal)

/-- Selecting what was found or imported puts it onto the layer. -/
theorem reloads_of_selects {t : Turn α} (h : t.action.selects) : t.reloads := by
  unfold reloads
  cases haction : t.action <;> simp_all [Action.selects]

/-- A turn that keeps what is dragged and the layer, and at most leaves a tool. -/
theorem grip_of_kept {t : Turn α} {e : Editor α} (after : t.after = e) (drag : e.draw.drag = t.before.draw.drag)
    (layer : e.layer = t.before.layer) (mode : e.draw.mode = t.before.draw.mode ∨ e.draw.mode = .normal) : t.Grip := by
  subst after
  exact .kept drag layer mode

/-- A turn that puts a selection onto the layer, keeps what is dragged, and at most leaves a tool. -/
theorem grip_of_reloaded {t : Turn α} {e : Editor α} (after : t.after = e) (reloads : t.reloads)
    (drag : e.draw.drag = t.before.draw.drag) (mode : e.draw.mode = t.before.draw.mode ∨ e.draw.mode = .normal) :
    t.Grip := by
  subst after
  exact .reloaded reloads drag mode

/-- Every turn changes what is dragged in one of the ways listed. -/
theorem grip (t : Turn α) : t.Grip := by
  cases t.course with
  | declined _ after | looked _ _ after | previewed _ _ _ after | closed _ _ after =>
    exact grip_of_kept after rfl rfl (.inl rfl)
  | @chosen event _ _ event_ne after =>
    cases event with
    | selectBox | selectFree => exact .dropped (by rw [after]; rfl)
    | finish => exact grip_of_kept after rfl rfl (.inr rfl)
    | cancel => exact absurd rfl event_ne
  | cancelled _ after | offLayer _ _ _ _ after | unselected _ _ _ _ _ after | edited _ _ _ _ _ _ after
  | rejected _ _ _ _ _ after => exact .dropped (by rw [after]; rfl)
  | began _ _ tool after => exact .drawn tool (by rw [after])
  | crossed _ _ free after => exact .drawn (by simp [free]) (by rw [after])
  | drawn _ _ tool _ _ after =>
    refine .drawn (fun hnormal => ?_) (by rw [after]; rfl)
    simp [hnormal, DrawMode.provenance?] at tool
  | picked _ _ normal hit after => exact .picked hit (by rw [after]) (by rw [after]) (by rw [after]; exact normal)
  | moved action _ dragged there part accepted after => exact .moved action dragged there part accepted after
  | viewSelected action _ after => exact grip_of_reloaded after (by simp [reloads, action]) rfl (.inr rfl)
  | selected action _ after => exact grip_of_reloaded after (reloads_of_selects action) rfl (.inr rfl)
  | buffered action reply _ after =>
    exact grip_of_reloaded after (by obtain action | action := action <;> simp [reloads, action, reply]) rfl (.inl rfl)
  | reverted action reply _ after => exact grip_of_reloaded after (by simp [reloads, action, reply]) rfl (.inl rfl)

end Turn

/-- While a drawing tool is in use nothing is dragged. -/
def Editor.DragsWithoutTool (e : Editor α) : Prop := e.draw.mode ≠ .normal → e.draw.drag = none

/-- Choosing a tool ends the drag, and none begins before the tool is left. -/
theorem Turn.dragsWithoutTool (t : Turn α) (h : t.before.DragsWithoutTool) : t.after.DragsWithoutTool := by
  intro htool
  cases t.grip with
  | kept drag _ mode | reloaded _ drag mode =>
    rw [drag]
    exact h fun hnormal => htool (mode.elim (·.trans hnormal) id)
  | dropped drag => exact drag
  | drawn tool drag => exact drag.trans (h tool)
  | picked _ _ _ mode => exact absurd mode htool
  | moved _ dragged _ _ _ after =>
    have hnone : t.before.draw.drag = none := h fun hnormal => htool (by rw [after]; exact hnormal)
    cases dragged.symm.trans hnone

/-- Whatever is dragged stays on the layer, unless a selection is put there or a position is not finite. -/
theorem Turn.dragLive [SelfClose α] (t : Turn α) (hlive : t.before.DragLive) (htool : t.before.DragsWithoutTool)
    (hsettled : ¬ (t.reloads ∨ t.MovesNonFinite)) : t.after.DragLive := by
  obtain ⟨hreloads, hfinite⟩ := not_or.mp hsettled
  cases t.grip with
  | kept drag layer =>
    intro d hd
    rw [layer]
    exact hlive d (by rwa [← drag])
  | dropped drag =>
    intro d hd
    cases drag.symm.trans hd
  | drawn tool drag =>
    intro d hd
    cases (drag.trans (htool tool)).symm.trans hd
  | picked hit drag layer =>
    intro d hd
    cases drag.symm.trans hd
    rw [layer]
    exact Editor.liveOn_of_hitVertex? hit
  | @moved pixel drag shape polygon ring action dragged there part accepted after =>
    rw [after]
    have hcoordinate : drag.coordinate.IsFinite :=
      Classical.byContradiction fun h => hfinite ⟨pixel, drag, action, dragged, h⟩
    exact Editor.dragLive_moved (hlive drag dragged) hcoordinate there part accepted
  | reloaded reloads => exact absurd reloads hreloads

namespace Editor

variable {settings : EditorSettings α} {ops : PlanarOps α} {history : History α} {e : Editor α}

/-- While a drawing tool is in use nothing is dragged in any reached editor. -/
theorem Reached.dragsWithoutTool (hr : Reached settings ops history e) : e.DragsWithoutTool := by
  induction hr with
  | new hnew =>
    obtain ⟨v, rfl⟩ := new?_eq_some hnew
    exact fun _ => rfl
  | @act _ e a _ ih => exact Turn.dragsWithoutTool ⟨e, a⟩ ih
  | view _ _ ih => exact ih

/-- Whatever is dragged is on the layer all along a run exactly when it still is there each time that a selection is
put onto the layer, or that a vertex is moved away from a position that is not finite. -/
theorem Reached.dragLive_iff [SelfClose α] (hr : Reached settings ops history e) :
    ((∀ t ∈ history, t.after.DragLive) ∧ e.DragLive) ↔
      ∀ t ∈ history, t.reloads ∨ t.MovesNonFinite → t.after.DragLive := by
  refine ⟨fun h t ht _ => h.1 t ht, fun h => ?_⟩
  induction hr with
  | new hnew =>
    obtain ⟨v, rfl⟩ := new?_eq_some hnew
    exact ⟨by simp, fun d hd => by cases hd⟩
  | @act earlier e a hr ih =>
    obtain ⟨hearlier, hlive⟩ := ih fun t ht => h t (List.mem_cons_of_mem _ ht)
    have hafter : (Turn.mk e a).after.DragLive := by
      by_cases hunsettled : (Turn.mk e a).reloads ∨ (Turn.mk e a).MovesNonFinite
      · exact h _ List.mem_cons_self hunsettled
      · exact Turn.dragLive ⟨e, a⟩ hlive hr.dragsWithoutTool hunsettled
    exact ⟨List.forall_mem_cons.mpr ⟨hafter, hearlier⟩, hafter⟩
  | view _ _ ih => exact ih h

/-- A box is drawn on the flat world, and one of its corners is dragged outwards. -/
def cornerDragged : List (Action Rat) :=
  [.selectTool .selectBox, .drawEnd [⟨0, 0⟩, ⟨0, 200000000⟩, ⟨300000000, 200000000⟩, ⟨300000000, 0⟩],
    .pointerDown (FlatWorld.start.viewport.pixelOf ⟨0, 0⟩),
    .pointerDrag (FlatWorld.start.viewport.pixelOf ⟨-100000000, -100000000⟩)]

/-- The dragged corner is on the layer, since nothing else was put there. -/
theorem dragLive_cornerDragged :
    (FlatWorld.start.run cornerDragged).draw.drag.map (·.coordinate) = some ⟨-100000000, -100000000⟩ ∧
      (FlatWorld.start.run cornerDragged).DragLive := by
  have hr := (Reached.new FlatWorld.new?_eq_start).run cornerDragged
  refine ⟨by decide +kernel, (hr.dragLive_iff.mpr fun t ht hunsettled => ?_).2⟩
  have hkept : (FlatWorld.start.turns cornerDragged []).all (!·.reloads) := by decide +kernel
  obtain hreloads | ⟨_, drag, -, -, hinfinite⟩ := hunsettled
  · simpa [hreloads] using List.all_eq_true.mp hkept t ht
  · exact absurd ⟨rfl, rfl⟩ hinfinite

/-- A point is imported during the drag. -/
def importedWhileDragged : List (Action Rat) :=
  cornerDragged ++ [.importFeatures (.single (.ofGeometry (.point [0, 0]))) "point"]

/-- The drag goes on after the import, and is left without its vertex. -/
theorem not_dragLive_importedWhileDragged :
    Reached .default FlatWorld.planarOps (FlatWorld.start.turns importedWhileDragged [])
        (FlatWorld.start.run importedWhileDragged) ∧
      ¬ (FlatWorld.start.run importedWhileDragged).DragLive := by
  refine ⟨(Reached.new FlatWorld.new?_eq_start).run importedWhileDragged, fun hlive => ?_⟩
  have hdragged : (FlatWorld.start.run importedWhileDragged).draw.drag.isSome := by decide +kernel
  have hbare : (FlatWorld.start.run importedWhileDragged).layer.all (·.polygons.isEmpty) := by decide +kernel
  obtain ⟨drag, hdrag⟩ := Option.isSome_iff_exists.mp hdragged
  obtain ⟨shape, polygon, hshape, hpolygon, -⟩ := hlive drag hdrag
  have hnone : shape.polygons = [] :=
    List.isEmpty_iff.mp (List.all_eq_true.mp hbare shape (List.mem_of_getElem? hshape))
  simp [Shape.polygonAt?_eq, hnone] at hpolygon

end Editor

end AreaOfInterest
