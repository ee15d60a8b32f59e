import AreaOfInterest.Proofs.Neighbours

/-!
# Drawings that take the layer

The layer shows what is selected, apart from the time for which a drawing has it. A drawing takes the layer when it
begins, which empties it, and when it crosses itself, which leaves its shape there. From then on the layer says
nothing of the selection, until the two are made one again or both are dropped.

A drawing tool is left with one of these, except by the event that a drawing was accepted when none was. Then a
drawing keeps the layer while no tool is in use, and the map shows something else than what is selected.
-/

namespace AreaOfInterest

variable {α : Type} [Scalar α]

namespace FeatureCollection

/-- A collection shows something on the map when one of its features can be read. -/
theorem toProjected_ne_nil_iff (c : FeatureCollection α) : c.toProjected ≠ [] ↔ c.readable ≠ [] := by
  rw [toProjected_eq, ← List.length_pos_iff, List.length_map, length_shapes, List.length_pos_iff]

/-- A feature that a shape was written to can be read. -/
theorem isSome_toShape?_ofShape (s : Shape α) (bbox : Option (List α)) :
    { Feature.ofGeometry (Geometry.ofShape s) with bbox }.toShape?.isSome := by
  obtain ⟨s', hread⟩ := Geometry.exists_toShape_ofShape s
  exact Option.isSome_iff_exists.mpr ⟨s', Feature.toShape?_eq_some_iff.mpr ⟨_, rfl, hread⟩⟩

/-- A drawing is selected as a collection that can be read. -/
theorem readable_ofProjected (s : Shape α) : (ofProjected s).readable ≠ [] := by
  have h := isSome_toShape?_ofShape ((Mercator.unprojectShape s).map Mercator.truncateCoord)
    ((Extent.ofShape? s).map Extent.serialize)
  simp [readable, ofProjected, single, ofFeatures, h]

/-- A layer with shapes is selected as a collection that can be read. -/
theorem readable_geographic {layer : List (Shape α)} (h : layer ≠ []) : (Editor.geographic layer).readable ≠ [] := by
  obtain ⟨s, rest, rfl⟩ := List.exists_cons_of_ne_nil h
  have hs : s.toFeature.toShape?.isSome := isSome_toShape?_ofShape (Mercator.unprojectShape s) none
  simp [readable, Editor.geographic_features, hs]

end FeatureCollection

namespace Editor

/-- Something can be read of what is selected. -/
def HasReadable (e : Editor α) : Prop := ∃ w, e.working = some w ∧ w.readable ≠ []

/-- There is something on the map exactly when something can be read of what is selected. -/
def InStep (e : Editor α) : Prop := e.layer ≠ [] ↔ e.HasReadable

/-- Map and selection are in step when both have something to show. -/
theorem inStep_of_readable {e : Editor α} {w : FeatureCollection α} (layer : e.layer ≠ [])
    (selected : e.working = some w) (readable : w.readable ≠ []) : e.InStep :=
  iff_of_true layer ⟨w, selected, readable⟩

/-- Map and selection are in step when the selection was put on the map. -/
theorem inStep_of_toProjected {e : Editor α} {w : FeatureCollection α} (selected : e.working = some w)
    (layer : e.layer = w.toProjected) : e.InStep := by
  rw [InStep, layer, FeatureCollection.toProjected_ne_nil_iff]
  refine ⟨fun h => ⟨w, selected, h⟩, fun ⟨w', hw', h⟩ => ?_⟩
  cases selected.symm.trans hw'
  exact h

end Editor

variable [Surface α]

/-- The turn by which a drawing took the layer, unless layer and selection were made one or dropped since. -/
def sketch? : History α → Option (Turn α)
  | [] => none
  | t :: earlier => if t.aligns || t.clears then none else if t.takes then some t else sketch? earlier

namespace Editor

/-- What is kept of the layer: without a drawing it is in step with the selection, and a drawing that has it either
began and left it empty, or crossed itself and is on it. Without a tool a drawing has the layer only after a tool was
left by the event that a drawing was accepted. -/
structure Sketched (history : History α) (e : Editor α) : Prop where
  free : sketch? history = none → e.InStep
  taken : ∀ t, sketch? history = some t → (e.layer = [] ↔ t.action = .drawStart)
  tool : sketch? history ≠ none → e.draw.mode = .normal →
    ∃ t ∈ history, t.action = .selectTool .finish ∧ t.before.draw.mode ≠ .normal

variable {e e' : Editor α} {earlier : History α} {t : Turn α}

/-- A turn keeps what is known of the layer when it is no drawing, keeps selection and layer, and leaves no tool but by
the event that a drawing was accepted. -/
theorem Sketched.keep (h : Sketched earlier e) (aligns : t.aligns = false) (clears : t.clears = false)
    (takes : t.takes = false) (layer : e'.layer = [] ↔ e.layer = []) (session : e'.session = e.session)
    (mode : e'.draw.mode = .normal →
      e.draw.mode = .normal ∨ t.action = .selectTool .finish ∧ t.before.draw.mode ≠ .normal) :
    Sketched (t :: earlier) e' := by
  have hsketch : sketch? (t :: earlier) = sketch? earlier := by simp [sketch?, aligns, clears, takes]
  refine ⟨fun hfree => ?_, fun u hu => ?_, fun htaken hnormal => ?_⟩
  · rw [hsketch] at hfree
    have hin := h.free hfree
    simp only [InStep, HasReadable, working, session, ne_eq, layer] at hin ⊢
    exact hin
  · rw [hsketch] at hu
    exact layer.trans (h.taken u hu)
  · rw [hsketch] at htaken
    obtain hbefore | hleft := mode hnormal
    · obtain ⟨u, hu, hfinish⟩ := h.tool htaken hbefore
      exact ⟨u, List.mem_cons_of_mem _ hu, hfinish⟩
    · exact ⟨t, List.mem_cons_self, hleft⟩

/-- After a turn that makes layer and selection one, or drops both, no drawing has the layer. -/
theorem sketched_of_inStep (settles : (t.aligns || t.clears) = true) (h : e'.InStep) : Sketched (t :: earlier) e' := by
  have hsketch : sketch? (t :: earlier) = none := by simp [sketch?, settles]
  exact ⟨fun _ => h, fun u hu => by simp [hsketch] at hu, fun htaken => absurd hsketch htaken⟩

/-- After a turn by which a drawing takes the layer, the drawing has it, and its tool is in use. -/
theorem sketched_of_takes (settles : (t.aligns || t.clears) = false) (takes : t.takes = true)
    (layer : e'.layer = [] ↔ t.action = .drawStart) (mode : e'.draw.mode ≠ .normal) : Sketched (t :: earlier) e' := by
  have hsketch : sketch? (t :: earlier) = some t := by simp [sketch?, settles, takes]
  refine ⟨fun hfree => ?_, fun u hu => ?_, fun _ hnormal => absurd hnormal mode⟩
  · cases hsketch.symm.trans hfree
  · cases hsketch.symm.trans hu
    exact layer

end Editor

/-- What is known of the layer is kept by every turn. -/
theorem Turn.sketched (t : Turn α) {earlier : History α} (h : t.before.Sketched earlier) :
    t.after.Sketched (t :: earlier) := by
  cases t.course with
  | declined declines after =>
    rw [after]
    exact h.keep (aligns_of_declines declines) (clears_of_declines declines) (takes_of_declines declines) .rfl rfl .inl
  | looked action reply after =>
    rw [after]
    refine h.keep (aligns_of_looks action reply) ?_ ?_ .rfl rfl .inl
    · cases haction : t.action <;> simp_all [Action.looks, clears]
    · cases haction : t.action <;> simp_all [Action.looks, takes]
  | @chosen event action reply event_ne after =>
    rw [after]
    refine h.keep (by simp [aligns, renews, edit?, buffers, action, reply]) ?_ (by simp [takes, action]) .rfl rfl ?_
    · cases event <;> simp_all [clears]
    · intro hnormal
      cases event with
      | selectBox | selectFree => cases hnormal
      | cancel => exact absurd rfl event_ne
      | finish => exact (em (t.before.draw.mode = .normal)).imp_right fun htool => ⟨action, htool⟩
  | cancelled action after =>
    refine Editor.sketched_of_inStep ?_ ?_
    · obtain ⟨action, -⟩ | ⟨action, -⟩ := action <;> simp [clears, action]
    · rw [after]
      refine iff_of_false (fun h => h rfl) ?_
      rintro ⟨w, hw, -⟩
      cases hw
  | began action reply tool after =>
    refine Editor.sketched_of_takes (by simp [aligns, renews, edit?, buffers, clears, action, reply]) ?_ ?_ ?_
    · simp [takes, action, DrawMode.isDrawing, tool]
    · rw [after]
      exact iff_of_true rfl action
    · rw [after]
      exact tool
  | crossed action reply free after =>
    refine Editor.sketched_of_takes (by simp [aligns, renews, edit?, buffers, clears, action, reply])
      (by simp [takes, action, reply]) ?_ ?_
    · simp [after, action]
    · simp [after, free]
  | picked action reply _ _ after | offLayer action reply _ _ after | previewed action reply _ after
  | closed action reply after =>
    rw [after]
    exact h.keep (by simp [aligns, renews, edit?, buffers, action, reply]) (by simp [clears, action])
      (by simp [takes, action]) .rfl rfl .inl
  | moved action reply _ _ _ _ after | unselected action reply _ _ _ after | rejected action reply _ _ _ after =>
    rw [after]
    exact h.keep (by simp [aligns, renews, edit?, buffers, action, reply]) (by simp [clears, action])
      (by simp [takes, action]) (by simp [Editor.moved, Editor.released, Editor.rejected]) rfl .inl
  | drawn action reply _ _ _ after | viewSelected action reply after =>
    refine Editor.sketched_of_inStep (by simp [aligns, renews, action, reply]) ?_
    rw [after]
    exact Editor.inStep_of_readable (List.cons_ne_nil _ _) rfl (FeatureCollection.readable_ofProjected _)
  | @edited drag shape session action reply _ there _ committed after =>
    obtain ⟨r, -, rfl⟩ := Session.commitEdit_eq_ok_iff.mp committed
    have hlayer : (t.before.released drag shape).layer ≠ [] := by
      intro h
      rw [Editor.released, List.set_eq_nil_iff] at h
      simp [h] at there
    refine Editor.sketched_of_inStep (by simp [aligns, edit?, reply]) ?_
    rw [after]
    exact Editor.inStep_of_readable hlayer rfl (FeatureCollection.readable_geographic hlayer)
  | selected action reply after =>
    refine Editor.sketched_of_inStep (by simp [aligns, renews_of_selects action reply]) ?_
    rw [after]
    exact Editor.inStep_of_toProjected rfl rfl
  | buffered action reply applied after =>
    obtain ⟨r, -, -, rfl⟩ := Session.applyBuffer_eq_ok_iff.mp applied
    refine Editor.sketched_of_inStep ?_ ?_
    · obtain action | action := action <;> simp [aligns, buffers, action, reply]
    · rw [after]
      exact Editor.inStep_of_toProjected rfl rfl
  | reverted action reply reverted after =>
    obtain ⟨r, -, -, rfl⟩ := Session.revert_eq_ok_iff.mp reverted
    refine Editor.sketched_of_inStep (by simp [aligns, renews, action, reply]) ?_
    rw [after]
    exact Editor.inStep_of_toProjected rfl rfl

namespace Editor

variable {settings : EditorSettings α} {ops : PlanarOps α} {history : History α} {e : Editor α}

/-- What is known of the layer holds in every reached editor. -/
theorem Reached.sketched (hr : Reached settings ops history e) : e.Sketched history := by
  induction hr with
  | new hnew =>
    obtain ⟨v, rfl⟩ := new?_eq_some hnew
    refine ⟨fun _ => iff_of_false (fun h => h rfl) ?_, fun u hu => ?_, fun h => absurd rfl h⟩
    · rintro ⟨w, hw, -⟩
      cases hw
    · simp [sketch?] at hu
  | @act _ e a _ ih => exact Turn.sketched ⟨e, a⟩ ih
  | view _ _ ih => exact ⟨ih.free, ih.taken, ih.tool⟩

/-- A reached editor has something on the map exactly when something can be read of what is selected, unless a drawing
has the layer: one that only began is in step with a selection of which nothing can be read, one that crossed itself
with every other. While no tool is in use no drawing has the layer, as long as no tool was left by the event that a
drawing was accepted. -/
theorem Reached.inStep_iff (hr : Reached settings ops history e) :
    (e.InStep ↔ ∀ t, sketch? history = some t → (t.action = .drawStart ↔ ¬ e.HasReadable)) ∧
      (e.draw.mode = .normal → (∀ t ∈ history, t.action = .selectTool .finish → t.before.draw.mode = .normal) →
        e.InStep) := by
  have h := hr.sketched
  refine ⟨⟨fun hin t ht => ?_, fun htaken => ?_⟩, fun normal kept => ?_⟩
  · rw [← h.taken t ht, ← not_iff_not.mpr hin, not_not]
  · cases hsketch : sketch? history with
    | none => exact h.free hsketch
    | some t => rw [InStep, Ne, h.taken t hsketch, htaken t hsketch, not_not]
  · refine h.free (by_contra fun hsketch => ?_)
    obtain ⟨t, ht, finish, tool⟩ := h.tool hsketch normal
    exact tool (kept t ht finish)

/-- A drawing that crosses itself, over which fields are imported. -/
def importedOver : List (Action Rat) :=
  [.selectTool .selectFree, .drawStart, .drawEnd FlatWorld.bowtie, .importFeatures fields "fields"]

/-- The fields are on the map and selected. -/
theorem inStep_importedOver : (FlatWorld.start.run importedOver).InStep := by
  have hr := (Reached.new FlatWorld.new?_eq_start).run importedOver
  have hkept : (FlatWorld.start.turns importedOver []).all
      (fun t => !(t.action matches .selectTool .finish)) := by decide +kernel
  refine hr.inStep_iff.2 (by decide +kernel) fun t ht finish => ?_
  have hnot := List.all_eq_true.mp hkept t ht
  simp [finish] at hnot

/-- A drawing is begun over the fields, and its tool is left as if it was accepted. -/
def begunOver : List (Action Rat) :=
  [.importFeatures fields "fields", .selectTool .selectBox, .drawStart, .selectTool .finish]

/-- The tool of a drawing that crosses itself is left as if it was accepted. -/
def crossedOnly : List (Action Rat) := [.selectTool .selectFree, .drawEnd FlatWorld.bowtie, .selectTool .finish]

/-- Then no tool is in use and nothing is dragged, and there is nothing on the map for the fields, or something that is
not selected. -/
theorem not_inStep_begunOver :
    (∃ history, Reached .default FlatWorld.planarOps history (FlatWorld.start.run begunOver) ∧
      (FlatWorld.start.run begunOver).draw = ⟨.normal, false, none⟩ ∧ ¬ (FlatWorld.start.run begunOver).InStep) ∧
    ∃ history, Reached .default FlatWorld.planarOps history (FlatWorld.start.run crossedOnly) ∧
      (FlatWorld.start.run crossedOnly).draw = ⟨.normal, true, none⟩ ∧ ¬ (FlatWorld.start.run crossedOnly).InStep := by
  have hnew := Reached.new FlatWorld.new?_eq_start
  refine ⟨⟨_, hnew.run begunOver, by decide +kernel, fun h => ?_⟩,
    ⟨_, hnew.run crossedOnly, by decide +kernel, fun h => ?_⟩⟩
  · have hempty : (FlatWorld.start.run begunOver).layer = [] := List.isEmpty_iff.mp (by decide +kernel)
    have hread : (FlatWorld.start.run begunOver).working.any (!·.readable.isEmpty) := by decide +kernel
    obtain ⟨w, hw, hreadable⟩ := (Option.any_eq_true _ _).mp hread
    exact h.mpr ⟨w, hw, by simpa using hreadable⟩ hempty
  · have hfilled : (FlatWorld.start.run crossedOnly).layer ≠ [] := by
      rw [Ne, ← List.isEmpty_iff]
      decide +kernel
    have hnone : (FlatWorld.start.run crossedOnly).working = none := Option.isNone_iff_eq_none.mp (by decide +kernel)
    obtain ⟨w, hw, -⟩ := h.mp hfilled
    cases hnone.symm.trans hw

end Editor

end AreaOfInterest
