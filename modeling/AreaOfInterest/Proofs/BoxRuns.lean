import AreaOfInterest.Proofs.Boxes
import AreaOfInterest.Proofs.Layers
import AreaOfInterest.Proofs.Reverting
import AreaOfInterest.Proofs.TwoZeros

/-!
# The life of a box

A box is drawn, its corners are dragged and let go, and it is brought back. All that is ever done to its ring is that
the two axes are changed, each by itself: by the move of a corner, by the way back into the valid extent, by going to
degrees, by rounding and by going back to the map. So the ring stays one around an extent.

A move leaves a box, as far as the pointer is at numbers. The other ways may bring the two sides into one place, and
then the ring is a box as long as the two are the same value there.
-/

namespace AreaOfInterest

variable {α : Type} [Scalar α]

namespace Ring

/-- A ring goes around an extent, or has more points than that because it could not be closed with numbers. -/
def IsFrame (ring : Polyline α) : Prop :=
  (∃ e : Extent α, ring = e.ring) ∨ 5 < ring.length ∧ ∃ x : α, ¬ x == x

/-- A ring goes around a sound extent. -/
def IsSoundFrame (ring : Polyline α) : Prop := ∃ e : Extent α, ring = e.ring ∧ e.IsSound

/-- Among frames the boxes are the sound ones. -/
theorem IsFrame.isBox_iff [NumericOrder α] {ring : Polyline α} (h : IsFrame ring) : isBox ring ↔ IsSoundFrame ring := by
  refine ⟨fun hbox => ?_, ?_⟩
  · obtain ⟨e, rfl⟩ | ⟨hlong, -⟩ := h
    · exact ⟨e, rfl, Extent.isBox_ring_iff.mp hbox⟩
    · have hlength : ring.length = 5 := by
        unfold isBox at hbox
        split at hbox
        · exact eq_of_beq (Bool.and_eq_true_iff.mp hbox).1
        · cases hbox
      omega
  · rintro ⟨e, rfl, hsound⟩
    exact Extent.isBox_ring hsound

/-- Where equal values are the same, a frame is sound. -/
theorem IsFrame.isSoundFrame [LawfulBEq α] {ring : Polyline α} (h : IsFrame ring) : IsSoundFrame ring := by
  obtain ⟨e, rfl⟩ | ⟨-, x, hx⟩ := h
  · exact ⟨e, rfl, ⟨BEq.rfl, BEq.rfl⟩, ⟨BEq.rfl, BEq.rfl⟩, fun h => .inl (eq_of_beq h)⟩
  · exact absurd BEq.rfl hx

/-- A closed frame is a frame. -/
theorem IsFrame.close {ring : Polyline α} (h : IsFrame ring) : IsFrame (Polyline.close ring) := by
  unfold Polyline.close
  split
  · exact h
  · next hopen =>
    refine .inr ⟨?_, ?_⟩
    · obtain ⟨e, rfl⟩ | ⟨hlong, -⟩ := h
      · simp [Extent.ring]
      · rw [List.length_append]
        omega
    · obtain ⟨e, rfl⟩ | ⟨-, hx⟩ := h
      · have hcorner : ¬ (⟨e.minX, e.minY⟩ : Coord α) == ⟨e.minX, e.minY⟩ := hopen
        rw [Coord.beq_iff, not_and_or] at hcorner
        exact hcorner.elim (fun h => ⟨_, h⟩) fun h => ⟨_, h⟩
      · exact hx

/-- A frame whose axes are changed, each by itself, is a frame. -/
theorem IsFrame.map {ring : Polyline α} (h : IsFrame ring) (f g : α → α) :
    IsFrame (ring.map fun c => ⟨f c.x, g c.y⟩) := by
  obtain ⟨e, rfl⟩ | ⟨hlong, hx⟩ := h
  · exact .inl ⟨e.mapAxes f g, rfl⟩
  · exact .inr ⟨by rwa [List.length_map], hx⟩

/-- A frame that is brought back into the valid extent is a frame. -/
theorem IsFrame.unwrap {ring : Polyline α} (h : IsFrame ring) (projection : Extent α) :
    IsFrame (ring.map (Wrap.unwrapCoord projection)) := h.map (Wrap.unwrapX · projection) id

/-- A frame of which corners are moved along with one of them is a frame. -/
theorem IsFrame.moveCorner {ring : Polyline α} (h : IsFrame ring) (origin target : Coord α) :
    IsFrame (ring.map (moveCorner origin target)) :=
  h.map (fun x => if Ring.close x origin.x then target.x else x) fun y => if Ring.close y origin.y then target.y else y

/-- A sound frame is closed. -/
theorem IsSoundFrame.close {ring : Polyline α} (h : IsSoundFrame ring) : Polyline.close ring = ring := by
  obtain ⟨e, rfl, hsound⟩ := h
  have hclosed : Polyline.isClosed e.ring := Coord.beq_iff.mpr ⟨hsound.lower.x, hsound.lower.y⟩
  rw [Polyline.close, if_pos hclosed]

end Ring

namespace FeatureCollection

/-- A collection has one feature, read as a polygon with a ring of which something holds. -/
def HasRing (P : Polyline α → Prop) (c : FeatureCollection α) : Prop :=
  ∃ f p, c.features = [f] ∧ f.toShape? = some (.polygon p) ∧ P p.exterior

/-- A written polygon is read with its ring closed. -/
theorem hasRing_of_written {P : Polyline α → Prop} {c : FeatureCollection α} {f : Feature α} {p : Polygon α}
    (features : c.features = [f]) (written : f.geometry = some (.ofShape (.polygon p)))
    (h : P (Polyline.close p.exterior)) : c.HasRing P := by
  refine ⟨f, .ofRings p.exterior p.interiors, features, Feature.toShape?_eq_some_iff.mpr ⟨_, written, ?_⟩, h⟩
  exact bind_eq_ok_iff.mpr ⟨_, Position.toPolygon_toPositions_eq p, rfl⟩

/-- A collection of one polygon is put on the map as that polygon. -/
theorem toProjected_of_feature {c : FeatureCollection α} {f : Feature α} {p : Polygon α} (features : c.features = [f])
    (read : f.toShape? = some (.polygon p)) : c.toProjected = [.polygon (p.map Mercator.project)] := by
  simp only [toProjected_eq, shapes, features, List.filterMap_cons, List.filterMap_nil, read, List.map_cons,
    List.map_nil]
  rfl

/-- A collection of a frame is put on the map as a frame. -/
theorem HasRing.toProjected {c : FeatureCollection α} (h : c.HasRing Ring.IsFrame) :
    ∃ p, c.toProjected = [.polygon p] ∧ Ring.IsFrame p.exterior := by
  obtain ⟨f, p, hfeatures, hread, hframe⟩ := h
  exact ⟨_, toProjected_of_feature hfeatures hread, (hframe.map _ _).close⟩

/-- A drawn frame is selected as a frame. -/
theorem hasRing_ofProjected {p : Polygon α} (h : Ring.IsFrame p.exterior) :
    (ofProjected (.polygon p)).HasRing Ring.IsFrame :=
  hasRing_of_written rfl rfl (((h.map _ _).close.map _ _).close).close

/-- A frame on the map is selected as a frame. -/
theorem hasRing_geographic {p : Polygon α} (h : Ring.IsFrame p.exterior) :
    (Editor.geographic [.polygon p]).HasRing Ring.IsFrame :=
  hasRing_of_written rfl rfl (h.map _ _).close.close

/-- What holds of the ring may be replaced by what follows. -/
theorem HasRing.imp {P Q : Polyline α → Prop} {c : FeatureCollection α} (h : c.HasRing P)
    (hPQ : ∀ ring, P ring → Q ring) : c.HasRing Q := by
  obtain ⟨f, p, hfeatures, hread, hP⟩ := h
  exact ⟨f, p, hfeatures, hread, hPQ _ hP⟩

end FeatureCollection

namespace Editor

/-- One polygon is on the map and one is selected, and of the exterior ring of each something holds. -/
structure HasRings (P : Polyline α → Prop) (e : Editor α) : Prop where
  layer : ∃ p, e.layer = [.polygon p] ∧ P p.exterior
  selected : ∃ w, e.working = some w ∧ w.HasRing P

/-- A box is on the map and a box is selected. -/
def Boxed (e : Editor α) : Prop := e.HasRings (Ring.isBox ·)

/-- A frame is on the map, a frame is selected, and a frame is what reverting goes back to. -/
structure Framed (e : Editor α) : Prop where
  rings : e.HasRings Ring.IsFrame
  initial : ∃ r, e.session.record = some r ∧ r.initial.HasRing Ring.IsFrame

variable {e e' : Editor α} {P Q : Polyline α → Prop}

/-- What holds of the rings holds of them in another editor with the same layer and the same session. -/
theorem HasRings.keep (h : e.HasRings P) (layer : e'.layer = e.layer) (session : e'.session = e.session) :
    e'.HasRings P where
  layer := layer ▸ h.layer
  selected := by
    rw [working, session]
    exact h.selected

/-- What holds of two rings each holds of them together. -/
theorem HasRings.and (h : e.HasRings P) (h' : e.HasRings Q) : e.HasRings fun ring => P ring ∧ Q ring := by
  obtain ⟨⟨p, hlayer, hp⟩, w, hw, f, q, hfeatures, hread, hq⟩ := h
  obtain ⟨⟨p', hlayer', hp'⟩, w', hw', f', q', hfeatures', hread', hq'⟩ := h'
  cases hlayer.symm.trans hlayer'
  cases hw.symm.trans hw'
  cases hfeatures.symm.trans hfeatures'
  cases hread.symm.trans hread'
  exact ⟨⟨p, hlayer, hp, hp'⟩, w, hw, f, q, hfeatures, hread, hq, hq'⟩

/-- What holds of the rings may be replaced by what follows. -/
theorem HasRings.imp (h : e.HasRings P) (hPQ : ∀ ring, P ring → Q ring) : e.HasRings Q := by
  obtain ⟨⟨p, hlayer, hp⟩, w, hw, hring⟩ := h
  exact ⟨⟨p, hlayer, hPQ _ hp⟩, w, hw, hring.imp hPQ⟩

/-- Framed editors are kept by what changes neither layer nor session. -/
theorem Framed.keep (h : e.Framed) (layer : e'.layer = e.layer) (session : e'.session = e.session) : e'.Framed :=
  ⟨h.rings.keep layer session, session ▸ h.initial⟩

/-- The boxes of a framed editor go around sound extents. -/
theorem Framed.boxed_iff_sound [NumericOrder α] (h : e.Framed) : e.Boxed ↔ e.HasRings Ring.IsSoundFrame :=
  ⟨fun hboxed => (h.rings.and hboxed).imp fun _ ⟨hframe, hbox⟩ => hframe.isBox_iff.mp hbox,
    fun hsound => (h.rings.and hsound).imp fun _ ⟨hframe, hs⟩ => hframe.isBox_iff.mpr hs⟩

omit [Scalar α] in
/-- On a layer with one polygon only that one can be dragged. -/
theorem eq_of_there {drag : VertexDrag α} {shape : Shape α} {p : Polygon α} (layer : e.layer = [.polygon p])
    (there : e.layer[drag.feature]? = some shape) : drag.feature = 0 ∧ shape = .polygon p := by
  rw [layer] at there
  cases hfeature : drag.feature with
  | zero =>
    rw [hfeature] at there
    exact ⟨rfl, (Option.some.inj there).symm⟩
  | succ i =>
    rw [hfeature] at there
    cases there

/-- When a vertex of the one polygon is let go, the polygon is brought back into the valid extent. -/
theorem layer_released {drag : VertexDrag α} {shape : Shape α} {p : Polygon α} (layer : e.layer = [.polygon p])
    (there : e.layer[drag.feature]? = some shape) :
    (e.released drag shape).layer = [.polygon (p.map (Wrap.unwrapCoord e.viewport.projection))] := by
  obtain ⟨hfeature, rfl⟩ := eq_of_there layer there
  rw [released, hfeature, layer]
  rfl

/-- When a vertex of the one polygon is moved, the polygon has the new ring. -/
theorem layer_moved {drag : VertexDrag α} {shape : Shape α} {p polygon : Polygon α} {ring : Polyline α}
    (layer : e.layer = [.polygon p]) (there : e.layer[drag.feature]? = some shape)
    (part : shape.polygonAt? drag.polygon = some polygon) (target : Coord α) :
    polygon = p ∧ (e.moved drag shape polygon ring target).layer = [.polygon (p.withExterior ring)] := by
  obtain ⟨hfeature, rfl⟩ := eq_of_there layer there
  cases hpolygon : drag.polygon with
  | zero =>
    rw [hpolygon] at part
    cases part
    refine ⟨rfl, ?_⟩
    rw [moved, hfeature, hpolygon, layer]
    rfl
  | succ i =>
    rw [hpolygon] at part
    cases part

end Editor

variable [Surface α]

/-- The actions of dragging, and reverting. -/
def Action.reworks : Action α → Bool
  | .pointerDown _ | .pointerDrag _ | .pointerUp | .pointerMove _ | .revert => true
  | _ => false

/-- A turn brings the rings into another frame: a drawing ends, a vertex is let go, or the selection is reverted. Or a
vertex is moved to where there are no numbers. -/
def Turn.reframes (t : Turn α) : Prop :=
  match t.action with
  | .drawEnd _ | .pointerUp | .revert => True
  | .pointerDrag pixel => ¬ (t.before.viewport.coordAt pixel).IsNumber
  | _ => False

namespace Turn

variable {t : Turn α}

omit [Surface α] in
/-- The end of a drawing brings its ring into another frame. -/
theorem reframes_of_drawEnd {ring : Polyline α} (drawn : t.action = .drawEnd ring) : t.reframes := by
  simp only [reframes, drawn]

/-- A drawing of a frame leaves frames. -/
theorem framed_of_makes {ring : Polyline α} (drawn : t.action = .drawEnd ring) (makes : t.makes)
    (frame : Ring.IsFrame ring) : t.after.Framed := by
  cases t.course with
  | @drawn ring' _ action _ _ _ _ after =>
    cases drawn.symm.trans action
    have hframe : Ring.IsFrame
        (Polygon.ofRings (ring.map (Wrap.unwrapCoord t.before.viewport.projection)) []).exterior :=
      (frame.unwrap _).close
    have hselected := FeatureCollection.hasRing_ofProjected hframe
    rw [after]
    exact ⟨⟨⟨_, rfl, hframe⟩, _, rfl, hselected⟩, _, rfl, hselected⟩
  | declined declines => cases (renews_of_declines declines).symm.trans (renews_of_makes makes)
  | looked action => cases (renews_of_looks action).symm.trans (renews_of_makes makes)
  | cancelled action => obtain ⟨action, -⟩ | ⟨action, -⟩ := action <;> cases drawn.symm.trans action
  | crossed action reply => simp [Turn.makes, action, reply] at makes
  | selected action => simp [drawn, Action.selects] at action
  | buffered action => obtain action | action := action <;> cases drawn.symm.trans action
  | chosen action | began action | picked action | moved action | offLayer action | unselected action | edited action
  | rejected action | viewSelected action | previewed action | closed action | reverted action =>
    cases drawn.symm.trans action

/-- Dragging and reverting keep frames, as long as they are boxes. -/
theorem framed [NumericOrder α] (reworks : t.action.reworks) (h : t.before.Framed) (boxed : t.before.Boxed) :
    t.after.Framed := by
  obtain ⟨⟨p, hlayer, hframe⟩, hselected⟩ := h.rings
  cases t.course with
  | declined _ after | looked _ _ after | picked _ _ _ _ after | offLayer _ _ _ _ after =>
    rw [after]
    exact h.keep rfl rfl
  | moved _ _ _ there part accepted after =>
    obtain ⟨rfl, hmoved⟩ := Editor.layer_moved hlayer there part _
    obtain ⟨p', hlayer', hbox⟩ := boxed.layer
    cases hlayer.symm.trans hlayer'
    obtain ⟨rfl, -⟩ := Ring.drag?_of_isBox hbox accepted
    rw [after]
    exact ⟨⟨⟨_, hmoved, (hframe.moveCorner _ _).close⟩, hselected⟩, h.initial⟩
  | unselected _ _ _ _ record =>
    obtain ⟨r, hrecord, -⟩ := h.initial
    cases record.symm.trans hrecord
  | edited _ _ _ there _ committed after =>
    have hreleased := Editor.layer_released hlayer there
    have hback := (hframe.unwrap t.before.viewport.projection).close
    obtain ⟨r, hrecord, rfl⟩ := Session.commitEdit_eq_ok_iff.mp committed
    obtain ⟨r', hrecord', hinitial⟩ := h.initial
    cases hrecord.symm.trans hrecord'
    rw [after]
    refine ⟨⟨⟨_, hreleased, hback⟩, _, rfl, ?_⟩, _, rfl, hinitial⟩
    rw [hreleased]
    exact FeatureCollection.hasRing_geographic hback
  | rejected _ _ _ there _ after =>
    have hreleased := Editor.layer_released hlayer there
    rw [after]
    exact ⟨⟨⟨_, hreleased, (hframe.unwrap _).close⟩, hselected⟩, h.initial⟩
  | reverted _ _ reverted after =>
    obtain ⟨r, hrecord, -, rfl⟩ := Session.revert_eq_ok_iff.mp reverted
    obtain ⟨r', hrecord', hinitial⟩ := h.initial
    cases hrecord.symm.trans hrecord'
    rw [after]
    exact ⟨⟨hinitial.toProjected, _, rfl, hinitial⟩, _, rfl, hinitial⟩
  | cancelled action => obtain ⟨action, -⟩ | ⟨action, -⟩ := action <;> simp [action, Action.reworks] at reworks
  | selected action => cases haction : t.action <;> simp_all [Action.reworks, Action.selects]
  | buffered action => obtain action | action := action <;> simp [action, Action.reworks] at reworks
  | chosen action | began action | crossed action | drawn action | viewSelected action | previewed action
  | closed action => simp [action, Action.reworks] at reworks

/-- Boxes stay boxes, other than by being brought into another frame. -/
theorem boxed_of_not_reframes [NumericOrder α] (reworks : t.action.reworks) (h : t.before.Framed)
    (boxed : t.before.Boxed) (kept : ¬ t.reframes) : t.after.Boxed := by
  cases t.course with
  | declined _ after | looked _ _ after | picked _ _ _ _ after =>
    rw [after]
    exact boxed.keep rfl rfl
  | @moved pixel _ _ _ ring action _ _ there part accepted after =>
    have number : (t.before.viewport.coordAt pixel).IsNumber := by simpa [reframes, action] using kept
    obtain ⟨p, hlayer, e, he, hsound⟩ := (h.boxed_iff_sound.mp boxed).layer
    obtain ⟨rfl, hmoved⟩ := Editor.layer_moved hlayer there part (t.before.viewport.coordAt pixel)
    rw [he] at accepted
    have hring : Ring.IsSoundFrame ring := Ring.isSound_of_drag? hsound number accepted
    have hbox : Ring.isBox (Polyline.close ring) := by
      rw [hring.close]
      obtain ⟨e', rfl, hsound'⟩ := hring
      exact Extent.isBox_ring hsound'
    rw [after]
    exact ⟨⟨_, hmoved, hbox⟩, boxed.selected⟩
  | offLayer action | unselected action | edited action | rejected action | reverted action =>
    simp [reframes, action] at kept
  | cancelled action => obtain ⟨action, -⟩ | ⟨action, -⟩ := action <;> simp [action, Action.reworks] at reworks
  | selected action => cases haction : t.action <;> simp_all [Action.reworks, Action.selects]
  | buffered action => obtain action | action := action <;> simp [action, Action.reworks] at reworks
  | chosen action | began action | crossed action | drawn action | viewSelected action | previewed action
  | closed action => simp [action, Action.reworks] at reworks

end Turn

namespace Editor

variable {settings : EditorSettings α} {ops : PlanarOps α} {e : Editor α}

/-- From the drawing of a box on, as long as it is dragged and reverted only: if every turn that brings the rings into
another frame leaves boxes, all turns do. -/
theorem Reached.framed_and_boxed [NumericOrder α] {later earlier : History α} {t : Turn α} {box : Extent α}
    (hr : Reached settings ops (later ++ t :: earlier) e) (drawn : t.action = .drawEnd box.ring) (makes : t.makes)
    (reworks : ∀ u ∈ later, u.action.reworks)
    (sound : ∀ u ∈ later ++ [t], u.reframes → u.after.Framed → u.after.Boxed) :
    (∀ u ∈ later ++ [t], u.after.Framed ∧ u.after.Boxed) ∧ e.Framed ∧ e.Boxed := by
  generalize hhistory : later ++ t :: earlier = history at hr
  induction hr generalizing later with
  | new => cases later <;> cases hhistory
  | view _ _ ih =>
    obtain ⟨hall, hframed, hboxed⟩ := ih reworks sound hhistory
    exact ⟨hall, hframed.keep rfl rfl, hboxed.keep rfl rfl⟩
  | @act history e a _ ih =>
    cases later with
    | nil =>
      cases hhistory
      have hframed := Turn.framed_of_makes drawn makes (.inl ⟨box, rfl⟩)
      have hboxed := sound _ List.mem_cons_self (Turn.reframes_of_drawEnd drawn) hframed
      exact ⟨by simpa using ⟨hframed, hboxed⟩, hframed, hboxed⟩
    | cons u later =>
      cases hhistory
      obtain ⟨hfirst, hlater⟩ := List.forall_mem_cons.mp reworks
      obtain ⟨hall, hframed, hboxed⟩ := ih hlater (fun u hu => sound u (List.mem_cons_of_mem _ hu)) rfl
      have hframed' := Turn.framed hfirst hframed hboxed
      have hboxed' : (Turn.mk e a).after.Boxed := by
        by_cases hreframes : (Turn.mk e a).reframes
        · exact sound _ List.mem_cons_self hreframes hframed'
        · exact Turn.boxed_of_not_reframes hfirst hframed hboxed hreframes
      exact ⟨List.forall_mem_cons.mpr ⟨⟨hframed', hboxed'⟩, hall⟩, hframed', hboxed'⟩

/-- A box that is drawn, and from then on is dragged and reverted only, is a box on the map and as it is selected after
every turn, exactly when after each turn that brings it into another frame the two go around sound extents. That is
always so where equal values are the same. -/
theorem Reached.boxed_iff [NumericOrder α] {later earlier : History α} {t : Turn α} {box : Extent α}
    (hr : Reached settings ops (later ++ t :: earlier) e) (drawn : t.action = .drawEnd box.ring) (makes : t.makes)
    (reworks : ∀ u ∈ later, u.action.reworks) :
    (((∀ u ∈ later ++ [t], u.after.Boxed) ∧ e.Boxed) ↔
        ∀ u ∈ later ++ [t], u.reframes → u.after.HasRings Ring.IsSoundFrame) ∧
      (LawfulBEq α → (∀ u ∈ later ++ [t], u.after.Boxed) ∧ e.Boxed) := by
  refine ⟨⟨fun ⟨hboxed, _⟩ u hu _ => ?_, fun hsound => ?_⟩, fun _ => ?_⟩
  · obtain ⟨hall, -⟩ := hr.framed_and_boxed drawn makes reworks fun u hu _ _ => hboxed u hu
    exact (hall u hu).1.boxed_iff_sound.mp (hboxed u hu)
  · obtain ⟨hall, -, hboxed⟩ := hr.framed_and_boxed drawn makes reworks fun u hu hreframes hframed =>
      hframed.boxed_iff_sound.mpr (hsound u hu hreframes)
    exact ⟨fun u hu => (hall u hu).2, hboxed⟩
  · obtain ⟨hall, -, hboxed⟩ := hr.framed_and_boxed drawn makes reworks fun u _ _ hframed =>
      hframed.boxed_iff_sound.mpr (hframed.rings.imp fun _ hring => hring.isSoundFrame)
    exact ⟨fun u hu => (hall u hu).2, hboxed⟩

/-- A box is drawn on the flat world. -/
def ringDrawn : List (Action Rat) :=
  [.selectTool .selectBox, .drawEnd (Extent.ring ⟨0, 0, 300000000, 200000000⟩)]

/-- Its right side is dragged over the edge of the map and let go, so that it comes back on the left of the other one.
Then the box is reverted, and a corner is dragged. -/
def overTheEdge : List (Action Rat) :=
  [.pointerDown (FlatWorld.start.viewport.pixelOf ⟨300000000, 0⟩),
    .pointerDrag (FlatWorld.start.viewport.pixelOf ⟨2000000000, 0⟩), .pointerUp, .revert,
    .pointerDown (FlatWorld.start.viewport.pixelOf ⟨0, 0⟩),
    .pointerDrag (FlatWorld.start.viewport.pixelOf ⟨-100000000, -100000000⟩)]

/-- It is a box to the end. -/
theorem boxed_overTheEdge :
    ((FlatWorld.start.run ringDrawn).run (overTheEdge.take 3)).session.record.any (·.isModified) ∧
      ((FlatWorld.start.run ringDrawn).run overTheEdge).Boxed := by
  refine ⟨by decide +kernel, ?_⟩
  have hr := ((Reached.new FlatWorld.new?_eq_start).run ringDrawn).run overTheEdge
  rw [turns_eq_append] at hr
  have hreworks : ((FlatWorld.start.run ringDrawn).turns overTheEdge []).all (·.action.reworks) := by decide +kernel
  exact ((hr.boxed_iff rfl (by decide +kernel) (List.all_eq_true.mp hreworks)).2 inferInstance).2

/-- A box is drawn with its left side next to the middle of the map. -/
def nextToZero : List (Action SignedRat) :=
  [.selectTool .selectBox, .drawEnd (Extent.ring ⟨-25.0, 100000000.0, 300000000.0, 200000000.0⟩)]

/-- Reverted, its left side is at the negative zero. Then the right one is dragged by two halves of the world, and comes
back at the positive zero. -/
def ontoZero : List (Action SignedRat) :=
  [.revert, .pointerDown (SignedRat.start.viewport.pixelOf ⟨300000000.0, 200000000.0⟩),
    .pointerDrag (SignedRat.start.viewport.pixelOf ⟨2.0 * Mercator.halfWorld, 200000000.0⟩), .pointerUp]

/-- What is on the map then is no box. -/
theorem not_boxed_ontoZero :
    (∃ later t earlier, Reached .default SignedRat.planarOps (later ++ t :: earlier)
        ((SignedRat.start.run nextToZero).run ontoZero) ∧ t.before.draw.mode = .drawBox ∧
        t.action = .drawEnd (Extent.ring ⟨-25.0, 100000000.0, 300000000.0, 200000000.0⟩) ∧ t.makes ∧
        ∀ u ∈ later, u.action.reworks) ∧
      ¬ ((SignedRat.start.run nextToZero).run ontoZero).Boxed := by
  have hr := ((Reached.new SignedRat.new?_eq_start).run nextToZero).run ontoZero
  rw [turns_eq_append] at hr
  have hreworks : ((SignedRat.start.run nextToZero).turns ontoZero []).all (·.action.reworks) := by decide +kernel
  refine ⟨⟨_, _, _, hr, by decide +kernel, rfl, by decide +kernel, List.all_eq_true.mp hreworks⟩, fun hboxed => ?_⟩
  obtain ⟨⟨p, hlayer, hbox⟩, -⟩ := hboxed
  have hnone : ((SignedRat.start.run nextToZero).run ontoZero).layer.all
      (·.polygons.all (!Ring.isBox ·.exterior)) := by decide +kernel
  rw [hlayer] at hnone
  simp [Shape.polygons, hbox] at hnone

end Editor

end AreaOfInterest
