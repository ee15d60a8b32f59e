import AreaOfInterest.Proofs.Longitudes
import AreaOfInterest.Proofs.Neighbours
import AreaOfInterest.Proofs.Reverting
import AreaOfInterest.Proofs.Views

/-!
# The geographic frame

Each way to a selection goes from the map to degrees by a path of its own. What is drawn, and what the map shows, is
shifted back into the world before it is written; so is a shape whose vertex is let go. What is found or imported is
taken as it is given. The outline of a buffer is written as it lies, and so are shapes that were left behind in the
middle of a drag when another one is let go.

So a selection is in the frame all along a run of an editor, unless it leaves it in one of these last two ways.
-/

namespace AreaOfInterest

variable {α : Type} [Scalar α] [Surface α]

namespace Editor

/-- Both the working and the initial collection of the record have a property. -/
def Selects (P : FeatureCollection α → Prop) (e : Editor α) : Prop :=
  ∀ r, e.session.record = some r → P r.working ∧ P r.initial

/-- What is selected is in the frame. -/
def InFrame (e : Editor α) : Prop := ∀ w, e.working = some w → w.InFrame

omit [Scalar α] [Surface α] in
/-- What holds of the collections of the record holds of what is selected. -/
theorem Selects.working {P : FeatureCollection α → Prop} {e : Editor α} (h : e.Selects P) {w : FeatureCollection α}
    (selected : e.working = some w) : P w := by
  obtain ⟨r, hr, rfl⟩ := Option.map_eq_some_iff.mp selected
  exact (h r hr).1

omit [Scalar α] [Surface α] in
/-- Whatever is said of an editor's selection holds where there is none. -/
theorem selects_of_none {P : FeatureCollection α → Prop} {e : Editor α} (h : e.session.record = none) :
    e.Selects P := by
  intro r hr
  cases h.symm.trans hr

/-- An applied buffer selects what the planar operations make of the base. -/
theorem working_of_applyBuffer {e e' : Editor α} {distance : α} (h : e.applyBuffer distance = (e', .ok ())) :
    ∃ r w, e.session.record = some r ∧ e'.working = some w ∧ 0.0 ≤ distance ∧
      e.session.ops.bufferFeatures r.base distance true = .ok w := by
  obtain ⟨session, w, happlied, rfl⟩ := applyBuffer_eq_ok_iff.mp h
  obtain ⟨r, hrecord, hpreview, rfl⟩ := Session.applyBuffer_eq_ok_iff.mp happlied
  obtain ⟨hadmitted, r', hr', hbuffer⟩ := Session.previewBuffer_eq_ok_iff.mp hpreview
  cases hrecord.symm.trans hr'
  exact ⟨r, w, hrecord, rfl, (Session.admitsBuffer_iff.mp hadmitted).1, hbuffer⟩

end Editor

namespace Turn

variable {t : Turn α}

/-- Of what a record is made: of a collection that is given, or of a drawing on the map. -/
theorem source_of_makes {w : FeatureCollection α} (makes : t.makes) (selected : t.after.working = some w) :
    (∃ provenance, t.action.given? = some (w, provenance)) ∨ ∃ ring, w = .ofProjected (t.before.sketched ring) := by
  cases making makes with
  | drawn _ _ _ _ _ after =>
    rw [after] at selected
    cases selected
    exact .inr ⟨_, rfl⟩
  | viewSelected _ after =>
    rw [after] at selected
    obtain ⟨ring, -, hworking⟩ := t.before.selectMapView_sketched
    exact .inr ⟨ring, Option.some.inj (selected.symm.trans hworking)⟩
  | given given after =>
    rw [after] at selected
    cases selected
    exact .inl ⟨_, given⟩

/-- After a committed vertex edit, what is selected is the layer with the shape that was let go. -/
theorem working_of_edit? {c : FeatureCollection α} (h : t.edit? = some c) :
    ∃ drag shape, t.before.draw.drag = some drag ∧ t.before.layer[drag.feature]? = some shape ∧
      t.after.layer = (t.before.released drag shape).layer ∧ c = Editor.geographic t.after.layer ∧
      t.after.working = some c := by
  obtain ⟨drag, shape, session, dragged, there, rfl, committed, hafter⟩ := edited_of_edit? h
  obtain ⟨r, -, rfl⟩ := Session.commitEdit_eq_ok_iff.mp committed
  exact ⟨drag, shape, dragged, there, by rw [hafter]; rfl, by rw [hafter]; rfl, by rw [hafter]; rfl⟩

/-- A turn that buffers applies a buffer. -/
theorem applied_of_buffers (buffers : t.buffers) :
    ∃ distance, t.before.applyBuffer distance = (t.after, .ok ()) := by
  unfold Turn.buffers at buffers
  split at buffers
  · next action reply =>
    have hstep : t.before.step t.action = (t.before.commitBuffer.1, .ofResult t.before.commitBuffer.2) := by
      rw [action]
      rfl
    obtain ⟨failure, -, hrefused⟩ | ⟨hdone, -⟩ := settled_cases hstep
    · cases reply.symm.trans hrefused
    · exact ⟨_, (Editor.commitBuffer_eq_ok_iff.mp hdone).2⟩
  · next distance action reply =>
    have hstep : t.before.step t.action =
        ((t.before.applyBuffer distance).1, .ofResult (t.before.applyBuffer distance).2) := by
      rw [action]
      rfl
    obtain ⟨failure, -, hrefused⟩ | ⟨hdone, -⟩ := settled_cases hstep
    · cases reply.symm.trans hrefused
    · exact ⟨distance, hdone⟩
  · cases buffers

/-- What is known of the working collections that turns bring about is known of the initial ones, too, and of what is
selected after the turn. -/
theorem selects {P : FeatureCollection α → Prop} (h : t.before.Selects P)
    (brought : t.makes ∨ t.edit?.isSome ∨ t.buffers → ∀ w, t.after.working = some w → P w) : t.after.Selects P := by
  by_cases hmakes : t.makes
  · obtain ⟨r, hr, hreverted⟩ := reverted_of_makes hmakes
    have hsame : r.initial = r.working := congrArg (·.working) hreverted
    have hworking : P r.working := brought (.inl hmakes) _ (congrArg (Option.map SelectionRecord.working) hr)
    intro r' hr'
    cases hr.symm.trans hr'
    exact ⟨hworking, hsame ▸ hworking⟩
  cases t.course with
  | declined _ after | looked _ _ after | chosen _ _ _ after | began _ _ _ after | crossed _ _ _ after
  | picked _ _ _ _ after | moved _ _ _ _ _ _ after | offLayer _ _ _ _ after | unselected _ _ _ _ _ after
  | rejected _ _ _ _ _ after | previewed _ _ _ after | closed _ _ after =>
    rw [after]
    exact h
  | cancelled _ after =>
    rw [after]
    exact Editor.selects_of_none rfl
  | drawn action reply | viewSelected action reply => simp [makes, action, reply] at hmakes
  | selected action reply => cases haction : t.action <;> simp_all [makes, Action.selects]
  | edited _ reply _ _ _ committed after =>
    obtain ⟨r, hr, rfl⟩ := Session.commitEdit_eq_ok_iff.mp committed
    have hworking := brought (.inr (.inl (by simp [edit?, reply])))
    rw [after] at hworking ⊢
    intro r' hr'
    cases hr'
    exact ⟨hworking _ rfl, (h r hr).2⟩
  | buffered action reply applied after =>
    obtain ⟨r, hr, -, rfl⟩ := Session.applyBuffer_eq_ok_iff.mp applied
    have hbuffers : t.buffers := by obtain action | action := action <;> simp [buffers, action, reply]
    have hworking := brought (.inr (.inr hbuffers))
    rw [after] at hworking ⊢
    intro r' hr'
    cases hr'
    exact ⟨hworking _ rfl, (h r hr).2⟩
  | reverted _ _ reverted after =>
    obtain ⟨r, hr, -, rfl⟩ := Session.revert_eq_ok_iff.mp reverted
    rw [after]
    intro r' hr'
    cases hr'
    exact ⟨(h r hr).2, (h r hr).2⟩

end Turn

namespace Editor

/-- The layer lies within the world, but for shapes that were moved and not let go since layer and selection were
one. -/
def LayerInWorld (history : History α) (e : Editor α) : Prop :=
  ∀ (i : Nat) (s : Shape α), standing (sinceAligned history) i ≠ .moved → e.layer[i]? = some s → s.InWorld

/-- Next to the shape in the pointer's grip, those that were moved and not let go since layer and selection were one lie
within the world. -/
def LeftInWorld (history : History α) (e : Editor α) : Prop :=
  ∀ (drag : VertexDrag α) (i : Nat) (s : Shape α), e.draw.drag = some drag → i ≠ drag.feature →
    standing (sinceAligned history) i = .moved → e.layer[i]? = some s → s.InWorld

variable {e e' : Editor α} {earlier : History α} {t : Turn α}

/-- A layer within the world is one whatever was done. -/
theorem layerInWorld_of_forall (h : ∀ s ∈ e.layer, s.InWorld) (history : History α) : e.LayerInWorld history :=
  fun _ s _ hs => h s (List.mem_of_getElem? hs)

/-- A turn that aligns nothing, keeps the layer and lets go of nothing. -/
theorem LayerInWorld.keep (h : e.LayerInWorld earlier) (aligns : t.aligns = false) (layer : e'.layer = e.layer)
    (same : ∀ i s, t.standing i s = s) : e'.LayerInWorld (t :: earlier) := by
  intro i s hstanding hs
  rw [sinceAligned_cons aligns, standing, same] at hstanding
  exact h i s hstanding (layer ▸ hs)

/-- A turn that replaces the dragged shape by one within the world, or moves it. -/
theorem LayerInWorld.set (h : e.LayerInWorld earlier) {drag : VertexDrag α} {shape : Shape α}
    (aligns : t.aligns = false) (layer : e'.layer = e.layer.set drag.feature shape)
    (dragged : t.before.draw.drag = some drag)
    (settled : ∀ s, t.standing drag.feature s ≠ .moved → shape.InWorld) : e'.LayerInWorld (t :: earlier) := by
  intro i s hstanding hs
  rw [sinceAligned_cons aligns, standing] at hstanding
  rw [layer, List.getElem?_set] at hs
  split at hs
  · next heq =>
    subst heq
    split at hs
    · cases hs
      exact settled _ hstanding
    · cases hs
  · next hne =>
    rw [Turn.standing_of_ne dragged hne] at hstanding
    exact h i s hstanding hs

end Editor

variable [Exact α]

namespace Editor

variable {e : Editor α} {earlier : History α}

omit [Surface α] in
/-- A drawing lies within the world. -/
theorem inWorld_sketched (world : e.viewport.projection = .world) (ring : Polyline α) : (e.sketched ring).InWorld := by
  rw [sketched, world]
  exact Shape.inWorld_polygon_unwrap ring

/-- When a shape is let go, the whole layer lies within the world if the shapes left behind do. -/
theorem LayerInWorld.released (h : e.LayerInWorld earlier) (left : e.LeftInWorld earlier)
    (plain : ∀ s ∈ e.layer, s.Plain) (world : e.viewport.projection = .world) {drag : VertexDrag α} {shape : Shape α}
    (dragged : e.draw.drag = some drag) (there : e.layer[drag.feature]? = some shape) :
    ∀ s ∈ (e.released drag shape).layer, s.InWorld := by
  intro s hs
  obtain ⟨i, hi⟩ := List.mem_iff_getElem?.mp hs
  rw [Editor.released, List.getElem?_set] at hi
  split at hi
  · split at hi
    · cases hi
      rw [world]
      exact Shape.inWorld_unwrapShape (plain shape (List.mem_of_getElem? there))
    · cases hi
  · next hne =>
    by_cases hmoved : standing (sinceAligned earlier) i = .moved
    · exact left drag i s dragged (Ne.symm hne) hmoved hi
    · exact h i s hmoved hi

/-- A selection in the frame is shown within the world. -/
theorem inWorld_showWorking (h : e.Selects FeatureCollection.InFrame) : ∀ s ∈ e.showWorking.layer, s.InWorld := by
  intro s hs
  obtain ⟨w, hw, hmem⟩ := exists_of_mem_showWorking hs
  exact (h.working hw).inWorld s hmem

end Editor

namespace Turn

variable {t : Turn α} {earlier : History α}

/-- A turn keeps the layer within the world as far as it keeps the selection in the frame, and lets go of no shape next
to one left behind beyond the edges. -/
theorem layerInWorld (h : t.before.LayerInWorld earlier) (plain : ∀ s ∈ t.before.layer, s.Plain)
    (world : t.before.viewport.projection = .world) (left : t.edit?.isSome → t.before.LeftInWorld earlier)
    (selected : t.after.Selects FeatureCollection.InFrame) : t.after.LayerInWorld (t :: earlier) := by
  have hsketched (ring : Polyline α) : ∀ s ∈ [t.before.sketched ring], s.InWorld := by
    intro s hs
    rw [List.mem_singleton.mp hs]
    exact Editor.inWorld_sketched world ring
  cases t.course with
  | declined declines after =>
    rw [after]
    exact h.keep (aligns_of_declines declines) rfl (standing_of_declines declines)
  | looked action reply after =>
    rw [after]
    refine h.keep (aligns_of_looks action reply) rfl (standing_of_none ?_)
    obtain reply | ⟨highlight, reply⟩ := reply <;> simp [reply]
  | chosen action reply _ after | picked action reply _ _ after | previewed action reply _ after
  | closed action reply after =>
    rw [after]
    exact h.keep (by simp [aligns, renews, edit?, buffers, action, reply]) rfl (standing_of_none (by simp [reply]))
  | offLayer action reply _ _ after =>
    rw [after]
    exact h.keep (by simp [aligns, renews, edit?, buffers, action, reply]) rfl
      (standing_of_none (by simp [reply, DragOutcome.standing?]))
  | cancelled _ after | began _ _ _ after =>
    rw [after]
    exact Editor.layerInWorld_of_forall (List.forall_mem_nil _) _
  | crossed _ _ _ after | drawn _ _ _ _ _ after =>
    rw [after]
    exact Editor.layerInWorld_of_forall (hsketched _) _
  | viewSelected _ _ after =>
    obtain ⟨ring, hlayer, -⟩ := t.before.selectMapView_sketched
    rw [after]
    exact Editor.layerInWorld_of_forall (hlayer ▸ hsketched ring) _
  | moved action reply dragged _ _ _ after =>
    rw [after]
    refine h.set (by simp [aligns, renews, edit?, buffers, action, reply]) rfl dragged fun s hs => absurd ?_ hs
    simp [standing, dragged, reply, DragOutcome.standing?]
  | unselected action reply dragged there _ after | rejected action reply dragged there _ after =>
    rw [after]
    refine h.set (by simp [aligns, renews, edit?, buffers, action, reply]) rfl dragged fun _ _ => ?_
    rw [world]
    exact Shape.inWorld_unwrapShape (plain _ (List.mem_of_getElem? there))
  | edited _ reply dragged there _ _ after =>
    rw [after]
    exact Editor.layerInWorld_of_forall (h.released (left (by simp [edit?, reply])) plain world dragged there) _
  | selected _ _ after | buffered _ _ _ after | reverted _ _ _ after =>
    rw [after] at selected ⊢
    exact Editor.layerInWorld_of_forall (Editor.inWorld_showWorking selected) _

/-- A turn keeps the selection in the frame, unless it buffers, or lets go of a shape next to one that was left behind
beyond the edges. -/
theorem selects_inFrame [ExactRounding α] (h : t.before.LayerInWorld earlier)
    (selection : t.before.Selects FeatureCollection.InFrame) (plain : ∀ s ∈ t.before.layer, s.Plain)
    (world : t.before.viewport.projection = .world)
    (given : ∀ c provenance, t.action.given? = some (c, provenance) → c.InFrame)
    (buffered : t.buffers → t.after.InFrame) (left : t.edit?.isSome → t.before.LeftInWorld earlier) :
    t.after.Selects FeatureCollection.InFrame := by
  have hlawful := Exact.lawfulBEq α
  refine selects selection fun brought w hw => ?_
  obtain hmakes | hedit | hbuffers := brought
  · obtain ⟨provenance, hgiven⟩ | ⟨ring, rfl⟩ := source_of_makes hmakes hw
    · exact given w provenance hgiven
    · exact FeatureCollection.inFrame_ofProjected (.polygon (Polygon.closed_ofRings _ _))
        (Editor.inWorld_sketched world ring)
  · obtain ⟨c, hc⟩ := Option.isSome_iff_exists.mp hedit
    obtain ⟨drag, shape, dragged, there, hlayer, rfl, hworking⟩ := working_of_edit? hc
    cases hw.symm.trans hworking
    rw [Editor.inFrame_geographic_iff (t.plain plain), hlayer]
    exact h.released (left hedit) plain world dragged there
  · exact buffered hbuffers w hw

end Turn

namespace Editor

variable {settings : EditorSettings α} {ops : PlanarOps α} {history : History α} {e : Editor α}

/-- As long as no buffer leaves the frame, and no shape is let go next to one that was left behind beyond the edges, the
selection is in the frame and the layer lies within the world. -/
theorem Reached.inFrame [ExactRounding α] (hr : Reached settings ops history e)
    (given : ∀ t ∈ history, ∀ c provenance, t.action.given? = some (c, provenance) → c.InFrame)
    (buffered : ∀ t ∈ history, t.buffers → t.after.InFrame)
    (left : ∀ later t earlier, history = later ++ t :: earlier → t.edit?.isSome → t.before.LeftInWorld earlier) :
    (∀ t ∈ history, t.after.InFrame) ∧ e.Selects FeatureCollection.InFrame ∧ e.LayerInWorld history := by
  have hlawful := Exact.lawfulBEq α
  induction hr with
  | new hnew =>
    obtain ⟨v, rfl⟩ := new?_eq_some hnew
    exact ⟨by simp, selects_of_none rfl, layerInWorld_of_forall (List.forall_mem_nil _) _⟩
  | @act earlier e a hr ih =>
    obtain ⟨hgiven, hgivens⟩ := List.forall_mem_cons.mp given
    obtain ⟨hbuffered, hbuffereds⟩ := List.forall_mem_cons.mp buffered
    have hleft := left [] ⟨e, a⟩ earlier rfl
    obtain ⟨hall, hselects, hlayer⟩ := ih hgivens hbuffereds fun later t rest hrest =>
      left (⟨e, a⟩ :: later) t rest (congrArg _ hrest)
    have hworld := hr.built.projection_eq
    have hselected := Turn.selects_inFrame hlayer hselects hr.plain hworld hgiven hbuffered hleft
    refine ⟨List.forall_mem_cons.mpr ⟨fun _ => hselected.working, hall⟩, hselected, ?_⟩
    exact Turn.layerInWorld hlayer hr.plain hworld hleft hselected
  | view _ _ ih => exact ih given buffered left

/-- In a run a vertex edit that is in the frame was let go next to shapes within the world. -/
theorem Reached.leftInWorld_of_edit {later earlier : History α} {t : Turn α}
    (hr : Reached settings ops (later ++ t :: earlier) e) (edited : t.edit?.isSome) (inFrame : t.after.InFrame) :
    t.before.LeftInWorld earlier := by
  have hlawful := Exact.lawfulBEq α
  obtain ⟨c, hc⟩ := Option.isSome_iff_exists.mp edited
  obtain ⟨drag, shape, hdragged, -, hlayer, rfl, hworking⟩ := Turn.working_of_edit? hc
  have hwithin := (inFrame_geographic_iff (t.plain hr.before.plain)).mp (inFrame _ hworking)
  intro drag' i s hdrag hne _ hi
  cases hdragged.symm.trans hdrag
  refine hwithin s (List.mem_of_getElem? (i := i) ?_)
  rw [hlayer, released, List.getElem?_set_ne (Ne.symm hne)]
  exact hi

/-- The bounding boxes of the selection are in the frame if those that are given are. -/
theorem Reached.boxesInFrame [ExactRounding α] [NumericOrder α] (hr : Reached settings ops history e)
    (given : ∀ t ∈ history, ∀ c provenance, t.action.given? = some (c, provenance) → c.BoxesInFrame) :
    e.Selects FeatureCollection.BoxesInFrame := by
  induction hr with
  | new hnew =>
    obtain ⟨v, rfl⟩ := new?_eq_some hnew
    exact selects_of_none rfl
  | @act earlier e a hr ih =>
    obtain ⟨hgiven, hgivens⟩ := List.forall_mem_cons.mp given
    refine Turn.selects (t := ⟨e, a⟩) (ih hgivens) fun brought w hw => ?_
    obtain hmakes | hedit | hbuffers := brought
    · obtain ⟨provenance, hprovenance⟩ | ⟨ring, rfl⟩ := Turn.source_of_makes hmakes hw
      · exact hgiven w provenance hprovenance
      · exact FeatureCollection.boxesInFrame_ofProjected (inWorld_sketched hr.built.projection_eq ring)
    · obtain ⟨c, hc⟩ := Option.isSome_iff_exists.mp hedit
      obtain ⟨drag, shape, -, -, -, rfl, hworking⟩ := Turn.working_of_edit? hc
      cases hw.symm.trans hworking
      exact FeatureCollection.boxesInFrame_of_boxes (boxes_geographic _)
    · obtain ⟨distance, happlied⟩ := Turn.applied_of_buffers hbuffers
      obtain ⟨r, w', -, hworking, -, hbuffered⟩ := working_of_applyBuffer happlied
      cases hw.symm.trans hworking
      exact FeatureCollection.boxesInFrame_of_boxes (PlanarOps.boxes_bufferFeatures hbuffered)
  | view _ _ ih => exact ih given

/-- Where what is given is in the frame, the selection is in it all along a run exactly when each buffer leaves it
there, and no shape is let go next to one that was left behind beyond an edge of the world. A point that is buffered
stays in the frame exactly when it is at least as far from both edges, if its outline reaches the distance to each side.
The bounding boxes are in the frame whatever is done, if those that are given are. -/
theorem Reached.inFrame_iff [ExactRounding α] [NumericOrder α] (hr : Reached settings ops history e)
    (given : ∀ t ∈ history, ∀ c provenance, t.action.given? = some (c, provenance) → c.InFrame) :
    ((∀ t ∈ history, t.after.InFrame) ∧ e.InFrame ↔
      (∀ t ∈ history, t.buffers → t.after.InFrame) ∧
        ∀ later t earlier, history = later ++ t :: earlier → t.edit?.isSome → t.before.LeftInWorld earlier) ∧
    (ops.RoundsPoints → ∀ (r : SelectionRecord α) (f : Feature α) (x y : α) (further : List α) (distance : α)
      (e' : Editor α), e.session.record = some r → r.base.features = [f] →
        f.geometry = some (.point (x :: y :: further)) → e.applyBuffer distance = (e', .ok ()) →
          (e'.InFrame ↔ Mercator.IsEasting (Mercator.easting x - PlanarOps.effectiveDistance distance) ∧
            Mercator.IsEasting (Mercator.easting x + PlanarOps.effectiveDistance distance))) ∧
    ((∀ t ∈ history, ∀ c provenance, t.action.given? = some (c, provenance) → c.BoxesInFrame) →
      ∀ w, e.working = some w → w.BoxesInFrame) := by
  refine ⟨⟨fun h => ⟨fun t ht _ => h.1 t ht, ?_⟩, fun h => ?_⟩, ?_, fun boxes w hw => ?_⟩
  · rintro later t earlier rfl edited
    exact hr.leftInWorld_of_edit edited (h.1 t (List.mem_append_right _ List.mem_cons_self))
  · obtain ⟨hall, hselects, -⟩ := hr.inFrame given h.1 h.2
    exact ⟨hall, fun _ => hselects.working⟩
  · intro rounds r f x y further distance e' selected base point applied
    obtain ⟨r', w, hr', hworking, hadmitted, hbuffered⟩ := working_of_applyBuffer applied
    cases selected.symm.trans hr'
    rw [hr.sameRules.ops] at hbuffered
    have hframe : e'.InFrame ↔ w.InFrame := by
      refine ⟨fun h => h w hworking, fun h w' hw' => ?_⟩
      cases hworking.symm.trans hw'
      exact h
    rw [hframe]
    exact PlanarOps.inFrame_bufferFeatures_point_iff rounds base point hadmitted hbuffered
  · exact (hr.boxesInFrame boxes).working hw

omit [Surface α] [Exact α] in
/-- Whether what is given is in the frame can be checked turn by turn. -/
theorem given_inFrame_of_all
    (h : history.all fun t => t.action.given?.all fun given => decide given.1.InFrame) :
    ∀ t ∈ history, ∀ c provenance, t.action.given? = some (c, provenance) → c.InFrame := by
  intro t ht c provenance hgiven
  simpa [hgiven] using List.all_eq_true.mp h t ht

/-- A point as a selection. -/
def pointAt (longitude latitude : Rat) : FeatureCollection Rat := .single (.ofGeometry (.point [longitude, latitude]))

/-- A box is drawn over the right edge of the world, and a point amid the map is imported and buffered. -/
def drawnAndBuffered : List (Action Rat) :=
  [.selectTool .selectBox,
    .drawEnd [⟨1100000000, 0⟩, ⟨1100000000, 200000000⟩, ⟨1200000000, 200000000⟩, ⟨1200000000, 0⟩],
    .importFeatures (pointAt 0 0) "point", .applyBuffer 1000]

/-- What is selected then is in the frame, and was all along. -/
theorem inFrame_drawnAndBuffered :
    (∀ t ∈ FlatWorld.start.turns drawnAndBuffered [], t.after.InFrame) ∧
      (FlatWorld.start.run drawnAndBuffered).InFrame := by
  have hr := (Reached.new FlatWorld.new?_eq_start).run drawnAndBuffered
  refine (hr.inFrame_iff (given_inFrame_of_all (by decide +kernel))).1.mpr ⟨fun t ht hbuffers w hw => ?_, ?_⟩
  · have hall : (FlatWorld.start.turns drawnAndBuffered []).all
        (fun t => !t.buffers || t.after.working.all fun w => decide w.InFrame) := by decide +kernel
    simpa [hbuffers, hw] using List.all_eq_true.mp hall t ht
  · intro later t earlier hhistory hedited
    have hall : (FlatWorld.start.turns drawnAndBuffered []).all (·.edit?.isNone) := by decide +kernel
    have hnone := List.all_eq_true.mp hall t (hhistory ▸ List.mem_append_right _ List.mem_cons_self)
    simp_all

/-- On the flat world the outline of a point is a box that reaches the distance to each side. -/
theorem roundsPoints_planarOps : FlatWorld.planarOps.RoundsPoints := by
  intro c distance hpositive
  have hdistance : 0 < distance := lt_of_eq_of_lt (by decide +kernel : (0 : Rat) = 0.0) hpositive
  let box : Extent Rat := ⟨c.x - distance, c.y - distance, c.x + distance, c.y + distance⟩
  have hmem (d : Coord Rat) : d ∈ box.polygon.rings.flatten ↔ d ∈ box.ring := by
    rw [Extent.polygon, Polygon.mem_ofRings, List.flatten_singleton]
  refine ⟨[box.polygon], rfl, fun p hp d hd => ?_, ?_, ?_⟩
  · rw [List.mem_singleton.mp hp, hmem] at hd
    have hlimits : d.x = c.x - distance ∨ d.x = c.x + distance := by
      simp only [Extent.ring, List.mem_cons, List.not_mem_nil, or_false, box] at hd
      obtain rfl | rfl | rfl | rfl | rfl := hd <;> simp
    obtain hx | hx := hlimits <;> rw [hx] <;> constructor <;> linarith
  · exact ⟨_, List.mem_singleton_self _, ⟨box.minX, box.minY⟩, (hmem _).mpr (by simp [Extent.ring]), rfl⟩
  · exact ⟨_, List.mem_singleton_self _, ⟨box.maxX, box.maxY⟩, (hmem _).mpr (by simp [Extent.ring]), rfl⟩

/-- A point on the right edge of the world is imported and buffered. -/
def bufferedAtTheEdge : List (Action Rat) := [.importFeatures (pointAt 180 0) "point", .applyBuffer 1000]

/-- The buffer leaves the frame. -/
theorem not_inFrame_bufferedAtTheEdge :
    Reached .default FlatWorld.planarOps (FlatWorld.start.turns bufferedAtTheEdge [])
        (FlatWorld.start.run bufferedAtTheEdge) ∧
      (∀ t ∈ FlatWorld.start.turns bufferedAtTheEdge [], ∀ c provenance,
        t.action.given? = some (c, provenance) → c.InFrame) ∧
      FlatWorld.planarOps.RoundsPoints ∧ ¬ (FlatWorld.start.run bufferedAtTheEdge).InFrame := by
  refine ⟨(Reached.new FlatWorld.new?_eq_start).run bufferedAtTheEdge, given_inFrame_of_all (by decide +kernel),
    roundsPoints_planarOps, fun h => ?_⟩
  have hout : (FlatWorld.start.run bufferedAtTheEdge).working.any fun w => !decide w.InFrame := by decide +kernel
  obtain ⟨w, hw, hbeyond⟩ := (Option.any_eq_true _ _).mp hout
  simp [h w hw] at hbeyond

end Editor

end AreaOfInterest
