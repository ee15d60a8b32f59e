import AreaOfInterest.Proofs.Layers
import AreaOfInterest.Proofs.VertexEdits

/-!
# The features next to an edited one

A committed vertex edit makes a collection of the whole layer. Its features are bare: the layer holds shapes alone, so
identifiers, properties and bounding boxes are gone, and so are the features without a shape. What becomes of the
shapes is the question here.

Those that nothing was done to are as they were. Either they were put on the map and come back from it, or they were
selected off the layer in the first place. For as long as no drawing took the layer, there is one for each shape of
the selection.
-/

namespace AreaOfInterest

variable {α : Type} [Scalar α] [Surface α]

namespace Turn

/-- Whether a turn buffers the selection. -/
def buffers (t : Turn α) : Bool :=
  match t.action, t.reply with
  | .commitBuffer, .done | .applyBuffer _, .done => true
  | _, _ => false

/-- Whether layer and selection are one after a turn: it makes a record or reverts it, commits an edit or buffers. -/
def aligns (t : Turn α) : Bool := t.renews || t.edit?.isSome || t.buffers

/-- Whether a drawing takes the layer: it begins with a tool, or it crosses itself. -/
def takes (t : Turn α) : Bool :=
  match t.action, t.reply with
  | .drawStart, _ => t.before.draw.mode.isDrawing
  | .drawEnd _, .drawn (.invalid _) => true
  | _, _ => false

/-- A turn that comes to nothing aligns nothing. -/
theorem aligns_of_declines {t : Turn α} (h : t.declines) : t.aligns = false := by
  have hbuffers : t.buffers = false := by
    unfold buffers
    split <;> simp_all [declines]
  simp [aligns, renews_of_declines h, edit?_of_declines h, hbuffers]

/-- A turn that comes to nothing takes no layer. -/
theorem takes_of_declines {t : Turn α} (h : t.declines) : t.takes = false := by
  unfold takes
  split
  · next haction =>
    have hreply : t.reply = .done := by simp [reply, haction, Editor.step]
    simpa [declines, haction, hreply] using h
  · next haction hreply => simp [declines, haction, hreply] at h
  · rfl

/-- A turn that comes to nothing leaves every shape standing as before. -/
theorem standing_of_declines {t : Turn α} (h : t.declines) (i : Nat) (earlier : Standing) :
    t.standing i earlier = earlier := by
  refine standing_of_none (fun outcome hreply => ?_) i earlier
  by_cases hup : t.action = .pointerUp
  · have hnothing : t.before.draw.drag = none := by simpa [declines, hup, hreply] using h
    have hidle : t.reply = .dragged .idle := by simp [reply, hup, Editor.step, Editor.pointerUp, hnothing]
    cases hreply.symm.trans hidle
    rfl
  · cases outcome <;> simp_all [declines, DragOutcome.standing?]

/-- Looking at the map aligns nothing. -/
theorem aligns_of_looks {t : Turn α} (h : t.action.looks)
    (reply : t.reply = .done ∨ ∃ highlight, t.reply = .highlighted highlight) : t.aligns = false := by
  have hbuffers : t.buffers = false := by
    unfold buffers
    split <;> simp_all [Action.looks]
  have hedit : t.edit? = none := by obtain reply | ⟨highlight, reply⟩ := reply <;> simp [edit?, reply]
  simp [aligns, renews_of_looks h, hedit, hbuffers]

/-- A shape that stands as loaded after a turn stood so before. -/
theorem loaded_of_standing {t : Turn α} {i : Nat} {earlier : Standing} (h : t.standing i earlier = .loaded) :
    earlier = .loaded := by
  unfold standing at h
  split at h
  · next drag outcome _ _ =>
    split at h
    · cases outcome <;> simp_all [DragOutcome.standing?]
    · exact h
  · exact h

/-- After a move or a refusal the dragged shape does not stand as loaded. -/
theorem standing_ne_loaded {t : Turn α} {drag : VertexDrag α} {outcome : DragOutcome α}
    (dragged : t.before.draw.drag = some drag) (reply : t.reply = .dragged outcome)
    (judged : outcome.standing?.isSome) (earlier : Standing) : t.standing drag.feature earlier ≠ .loaded := by
  intro h
  unfold standing at h
  simp only [dragged, reply, if_true] at h
  cases outcome <;> simp_all [DragOutcome.standing?]

end Turn

/-- The turns since layer and selection were one. -/
def sinceAligned (history : History α) : History α := history.takeWhile (!·.aligns)

/-- A turn that aligns nothing counts among those since. -/
theorem sinceAligned_cons {t : Turn α} (h : t.aligns = false) (earlier : History α) :
    sinceAligned (t :: earlier) = t :: sinceAligned earlier := by
  simp [sinceAligned, h]

namespace Editor

/-- The layer has one shape for each shape of a selection. Next to another shape, one that nothing was done to since
is the same on the map and off it; a lone drawing is not, as it is selected with its positions rounded. -/
structure Shows (since : History α) (e : Editor α) (w : FeatureCollection α) : Prop where
  length : e.layer.length = w.shapes.length
  place : 1 < e.layer.length → ∀ (i : Nat) (shape s : Shape α), standing since i = .loaded →
    e.layer[i]? = some shape → w.shapes[i]? = some s →
      shape = Mercator.projectShape s ∨ s = Mercator.unprojectShape shape

variable {e e' : Editor α} {w : FeatureCollection α} {since : History α}

/-- A lone drawing is shown. -/
theorem shows_of_lone (layer : e.layer.length = 1) (selection : w.shapes.length = 1) : Shows since e w where
  length := layer.trans selection.symm
  place hlt := by omega

/-- A selection that was put on the map is shown. -/
theorem shows_of_toProjected (layer : e.layer = w.toProjected) : Shows since e w where
  length := by rw [layer, FeatureCollection.toProjected_eq, List.length_map]
  place _ i shape s _ hshape hs := by
    rw [layer, FeatureCollection.toProjected_eq, List.getElem?_map, hs] at hshape
    exact .inl (Option.some.inj hshape).symm

/-- A selection that was made of the layer is shown. -/
theorem shows_geographic [ReflBEq α] (plain : ∀ s ∈ e.layer, s.Plain) : Shows since e (geographic e.layer) where
  length := by rw [shapes_geographic plain, List.length_map]
  place _ i shape s _ hshape hs := by
    rw [shapes_geographic plain, List.getElem?_map, hshape] at hs
    exact .inr (Option.some.inj hs).symm

/-- Next to another shape, one that nothing was done to is written as the selection has it. -/
theorem Shows.toFeature_of_loaded [LawfulBEq α] [Mercator.Invertible α] (h : Shows since e w)
    (several : 1 < e.layer.length) {i : Nat} {shape s : Shape α} (loaded : standing since i = .loaded)
    (there : e.layer[i]? = some shape) (selected : w.shapes[i]? = some s) (plain : s.Plain)
    (covers : Mercator.Covers s) : shape.toFeature = .ofGeometry (.ofShape s) := by
  obtain rfl | rfl := h.place several i shape s loaded there selected
  · rw [Shape.toFeature, Mercator.unprojectShape_projectShape plain covers]
  · rfl

/-- What is shown stays so while the layer is kept. -/
theorem Shows.keep (h : Shows since e w) {t : Turn α} (layer : e'.layer = e.layer) : Shows (t :: since) e' w where
  length := by rw [layer]; exact h.length
  place hlt i shape s hstanding hshape hs := by
    rw [layer] at hlt hshape
    exact h.place hlt i shape s (Turn.loaded_of_standing hstanding) hshape hs

/-- What is shown stays so when a shape is replaced that no longer stands as loaded. -/
theorem Shows.set (h : Shows since e w) {t : Turn α} {feature : Nat} {shape : Shape α}
    (layer : e'.layer = e.layer.set feature shape) (changed : ∀ earlier, t.standing feature earlier ≠ .loaded) :
    Shows (t :: since) e' w where
  length := by rw [layer, List.length_set]; exact h.length
  place hlt i other s hstanding hother hs := by
    have hne : feature ≠ i := by
      rintro rfl
      exact changed _ hstanding
    rw [layer, List.length_set] at hlt
    rw [layer, List.getElem?_set_ne hne] at hother
    exact h.place hlt i other s (Turn.loaded_of_standing hstanding) hother hs

/-- While no drawing takes the layer, an editor shows what it has selected. -/
def ShowsSelection (history : History α) (e : Editor α) : Prop :=
  ∀ w, e.working = some w → (∀ t ∈ sinceAligned history, ¬ t.takes) → Shows (sinceAligned history) e w

variable {earlier : History α} {t : Turn α}

/-- What is shown whatever was done is shown. -/
theorem showsSelection_of_shows (working : e.working = some w) (h : ∀ since, Shows since e w) (history : History α) :
    ShowsSelection history e := by
  intro w' selected _
  cases working.symm.trans selected
  exact h _

/-- A turn that aligns nothing and keeps selection and layer keeps the one shown on the other. -/
theorem ShowsSelection.keep (h : ShowsSelection earlier e) (aligns : t.aligns = false)
    (working : e'.working = e.working) (layer : e'.layer = e.layer) : ShowsSelection (t :: earlier) e' := by
  intro w selected free
  rw [sinceAligned_cons aligns] at free ⊢
  exact (h w (working ▸ selected) (List.forall_mem_cons.mp free).2).keep layer

/-- A turn that moves the dragged shape or refuses it changes what is shown at its place only. -/
theorem ShowsSelection.set (h : ShowsSelection earlier e) {drag : VertexDrag α} {shape : Shape α}
    {outcome : DragOutcome α} (aligns : t.aligns = false) (working : e'.working = e.working)
    (layer : e'.layer = e.layer.set drag.feature shape) (dragged : t.before.draw.drag = some drag)
    (reply : t.reply = .dragged outcome) (judged : outcome.standing?.isSome) : ShowsSelection (t :: earlier) e' := by
  intro w selected free
  rw [sinceAligned_cons aligns] at free ⊢
  exact (h w (working ▸ selected) (List.forall_mem_cons.mp free).2).set layer
    (Turn.standing_ne_loaded dragged reply judged)

/-- Nothing is said of a layer that a drawing takes. -/
theorem showsSelection_of_takes (aligns : t.aligns = false) (takes : t.takes) (e' : Editor α) :
    ShowsSelection (t :: earlier) e' := by
  intro w _ free
  rw [sinceAligned_cons aligns] at free
  exact absurd takes (free t List.mem_cons_self)

/-- Nothing is said of an editor without a selection. -/
theorem showsSelection_of_none (h : e.working = none) (history : History α) : ShowsSelection history e := by
  intro w selected
  cases h.symm.trans selected

end Editor

/-- An editor that shows its selection does so after every turn. -/
theorem Turn.showsSelection [ReflBEq α] {t : Turn α} {earlier : History α} (plain : ∀ s ∈ t.before.layer, s.Plain)
    (h : t.before.ShowsSelection earlier) : t.after.ShowsSelection (t :: earlier) := by
  cases t.course with
  | declined declines after =>
    rw [after]
    exact h.keep (aligns_of_declines declines) rfl rfl
  | looked action reply after =>
    rw [after]
    exact h.keep (aligns_of_looks action reply) rfl rfl
  | chosen action reply _ after | picked action reply _ _ after | offLayer action reply _ _ after
  | previewed action reply _ after | closed action reply after =>
    rw [after]
    exact h.keep (by simp [aligns, renews, edit?, buffers, action, reply]) rfl rfl
  | moved action reply dragged _ _ _ after | rejected action reply dragged _ _ after =>
    rw [after]
    exact h.set (by simp [aligns, renews, edit?, buffers, action, reply]) rfl rfl dragged reply rfl
  | began action reply tool after | crossed action reply tool after =>
    refine Editor.showsSelection_of_takes (by simp [aligns, renews, edit?, buffers, action, reply]) ?_ _
    simp [takes, action, reply, DrawMode.isDrawing, tool]
  | cancelled _ after =>
    rw [after]
    exact Editor.showsSelection_of_none rfl _
  | unselected _ _ _ _ record after =>
    rw [after]
    refine Editor.showsSelection_of_none ?_ _
    exact congrArg (Option.map _) record
  | drawn _ _ _ _ _ after | viewSelected _ _ after =>
    rw [after]
    refine Editor.showsSelection_of_shows rfl (fun _ => Editor.shows_of_lone rfl ?_) _
    exact FeatureCollection.length_shapes_ofProjected (.polygon (Polygon.closed_ofRings _ _))
  | edited _ _ _ _ _ committed after =>
    obtain ⟨r, -, rfl⟩ := Session.commitEdit_eq_ok_iff.mp committed
    have hplain := t.plain plain
    rw [after] at hplain ⊢
    exact Editor.showsSelection_of_shows rfl (fun _ => Editor.shows_geographic hplain) _
  | selected _ _ after =>
    rw [after]
    exact Editor.showsSelection_of_shows rfl (fun _ => Editor.shows_of_toProjected rfl) _
  | buffered _ _ applied after =>
    obtain ⟨r, -, -, rfl⟩ := Session.applyBuffer_eq_ok_iff.mp applied
    rw [after]
    exact Editor.showsSelection_of_shows rfl (fun _ => Editor.shows_of_toProjected rfl) _
  | reverted _ _ reverted after =>
    obtain ⟨r, -, -, rfl⟩ := Session.revert_eq_ok_iff.mp reverted
    rw [after]
    exact Editor.showsSelection_of_shows rfl (fun _ => Editor.shows_of_toProjected rfl) _

namespace Editor

variable {settings : EditorSettings α} {ops : PlanarOps α} {history : History α} {e : Editor α}

/-- A reached editor shows its selection, while no drawing takes the layer. -/
theorem Reached.showsSelection [ReflBEq α] (hr : Reached settings ops history e) : e.ShowsSelection history := by
  induction hr with
  | new hnew =>
    obtain ⟨v, rfl⟩ := new?_eq_some hnew
    exact showsSelection_of_none rfl _
  | @act earlier e a hr ih => exact Turn.showsSelection hr.plain ih
  | view _ _ ih =>
    intro w selected free
    have h := ih w selected free
    exact ⟨h.length, h.place⟩

/-- What a vertex edit commits has bare features only. While no drawing took the layer since it last was the
selection, there is one for each readable feature of that selection. A feature next to the edited one that was neither
moved nor refused since, and that is within the map, is there at its place with its geometry as it is read. Where the
geometry holds no more than is read, it is the very same. -/
theorem Reached.edit_keeps_others [LawfulBEq α] [Mercator.Invertible α] (hr : Reached settings ops history e)
    {w c : FeatureCollection α} (selected : e.working = some w) (committed : e.pointerUp.2 = .committed c) :
    ∃ drag, e.draw.drag = some drag ∧ (∀ f ∈ c.features, ∃ g, f = .ofGeometry g) ∧
      ((∀ t ∈ sinceAligned history, ¬ t.takes) →
        c.features.length = w.readable.length ∧
          ∀ (i : Nat) (f : Feature α) (s : Shape α), i ≠ drag.feature → standing (sinceAligned history) i = .loaded →
            w.readable[i]? = some f → f.toShape? = some s → Mercator.Covers s →
              c.features[i]? = some (.ofGeometry (.ofShape s)) ∧
                ∀ g, f.geometry = some g → g.Plain → Geometry.ofShape s = g) := by
  have hend := e.pointerUp_ends
  generalize e.pointerUp.1 = e', e.pointerUp.2 = outcome at hend committed
  cases hend with
  | idle | offLayer | unselected | invalid => cases committed
  | @committed drag shape session dragged there valid edited =>
    cases committed
    refine ⟨drag, dragged, ?_, fun free => ?_⟩
    · rw [geographic_features, List.forall_mem_map]
      exact fun s _ => ⟨_, rfl⟩
    have hshows := hr.showsSelection w selected free
    have hlength : (geographic (e.released drag shape).layer).features.length = e.layer.length := by
      rw [geographic_features, List.length_map]
      exact List.length_set
    refine ⟨by rw [hlength, hshows.length, FeatureCollection.length_shapes], ?_⟩
    intro i f s hne hloaded hf hshape hcovers
    obtain ⟨g, hg, hread⟩ := Feature.toShape?_eq_some_iff.mp hshape
    have hs : w.shapes[i]? = some s := by rw [FeatureCollection.getElem?_shapes, hf, Option.bind_some, hshape]
    have hi : i < e.layer.length := by
      rw [hshows.length]
      exact (List.getElem?_eq_some_iff.mp hs).1
    have hdragged : drag.feature < e.layer.length := (List.getElem?_eq_some_iff.mp there).1
    have hfeature : e.layer[i].toFeature = .ofGeometry (.ofShape s) :=
      hshows.toFeature_of_loaded (by omega) hloaded (List.getElem?_eq_getElem hi) hs (Geometry.plain_of_toShape hread)
        hcovers
    refine ⟨?_, fun g' hg' hplain => ?_⟩
    · rw [geographic_features, List.getElem?_map, released, List.getElem?_set_ne (Ne.symm hne),
        List.getElem?_eq_getElem hi, Option.map_some, hfeature]
    · cases hg.symm.trans hg'
      exact hplain.ofShape_of_toShape hread

/-- On the flat world nothing is rounded on the way to the map and back. -/
instance : Mercator.Invertible Rat where
  unproject_project := FlatWorld.unproject_project

/-- A region without a geometry, and the two fields within it. -/
def region : FeatureCollection Rat :=
  .ofFeatures (⟨some (.string "region"), none, none, none⟩ ::
    fields.features.map fun f => { f with id := some (.string "field") })

/-- The region is imported, and the upper left corner of the second field is dragged upwards. -/
def regionRaised : List (Action Rat) := .importFeatures region "region" :: raised.map PointerEvent.action

/-- The region is still selected then. -/
theorem working_regionRaised : (FlatWorld.start.run regionRaised).working = some region := by
  change ((((FlatWorld.start.importFeatures region "region").pointerDown _).1.pointerDrag _).1).session.working = _
  rw [session_pointerDrag, pointerDown_eq]
  obtain ⟨v, hv⟩ := zoomToSelection_eq
    { FlatWorld.start.handle .cancel with session := FlatWorld.start.session.selectImport region "region" }.showWorking
  have h : FlatWorld.start.importFeatures region "region" = { FlatWorld.start.handle .cancel with
      session := FlatWorld.start.session.selectImport region "region" }.showWorking.zoomToSelection := rfl
  rw [h, hv]
  rfl

/-- When the corner is let go, the first field is committed with the geometry that it was imported with. -/
theorem edit_keeps_others_regionRaised :
    ∃ c g, (FlatWorld.start.run regionRaised).pointerUp.2 = .committed c ∧ c.features.length = 2 ∧
      region.features[1]?.bind (·.geometry) = some g ∧ c.features[0]? = some (.ofGeometry g) := by
  have hr := (Reached.new FlatWorld.new?_eq_start).run regionRaised
  have hup : (Turn.mk (FlatWorld.start.run regionRaised) .pointerUp).edit?.isSome := by decide +kernel
  obtain ⟨c, hc⟩ := Option.isSome_iff_exists.mp hup
  have hcommitted := committed_of_edit? hc
  obtain ⟨drag, hdrag, -, hothers⟩ := hr.edit_keeps_others working_regionRaised hcommitted
  have hfeature : drag.feature = 1 := by
    have h : (FlatWorld.start.run regionRaised).draw.drag.all (·.feature = 1) := by decide +kernel
    simpa [hdrag] using h
  have hfree : (sinceAligned (FlatWorld.start.turns regionRaised [])).all (!·.takes) := by decide +kernel
  obtain ⟨hlength, hkept⟩ := hothers (by simpa using hfree)
  obtain ⟨hfirst, hsame⟩ := hkept 0 _ _ (by omega) (by decide +kernel) rfl rfl (by decide +kernel)
  rw [hsame _ rfl (.polygon ⟨by simp, by simp, by decide +kernel⟩)] at hfirst
  exact ⟨c, _, hcommitted, hlength, rfl, hfirst⟩

/-- Identifiers are lost with it, and the region itself. -/
theorem not_edit_keeps_others_regionRaised :
    Reached .default FlatWorld.planarOps (FlatWorld.start.turns regionRaised []) (FlatWorld.start.run regionRaised) ∧
      (FlatWorld.start.run regionRaised).working = some region ∧ region.features.all (·.id.isSome) ∧
        ∃ c, (FlatWorld.start.run regionRaised).pointerUp.2 = .committed c ∧ c.features.all (·.id.isNone) := by
  refine ⟨(Reached.new FlatWorld.new?_eq_start).run regionRaised, working_regionRaised, by decide +kernel, ?_⟩
  have hup : (Turn.mk (FlatWorld.start.run regionRaised) .pointerUp).edit?.any (·.features.all (·.id.isNone)) := by
    decide +kernel
  obtain ⟨c, hc, hbare⟩ := (Option.any_eq_true _ _).mp hup
  exact ⟨c, committed_of_edit? hc, hbare⟩

end Editor

end AreaOfInterest
