import AreaOfInterest.Proofs.Dragging
import AreaOfInterest.Proofs.Reverting
import AreaOfInterest.Proofs.VertexEdits

/-!
# Drawing tools

A tool has the pointer to itself. While one is in use no vertex is dragged, so pointer events do nothing; and while a
vertex is dragged no tool is in use, so nothing is drawn.

A selection that says it was drawn was. It is what the accepted drawing left, with the tool that was in use then, and
whatever was tried before, refused or begun anew has left no trace in it.
-/

namespace AreaOfInterest

variable {α : Type} [Scalar α] [Surface α]

namespace Editor

variable {settings : EditorSettings α} {ops : PlanarOps α} {history : History α} {e : Editor α}

/-- With a tool in use and nothing dragged, a pointer event does nothing. -/
theorem step_pointer_of_tool (tool : e.draw.mode ≠ .normal) (nothing : e.draw.drag = none) (event : PointerEvent α) :
    (e.step event.action).1 = e ∧
      ((e.step event.action).2 = .picked false ∨ (e.step event.action).2 = .dragged .idle) := by
  cases event with
  | down pixel => simp [PointerEvent.action, step, pointerDown, DrawMode.allowsVertexEditing, tool]
  | drag pixel => simp [PointerEvent.action, step, pointerDrag, nothing]
  | up => simp [PointerEvent.action, step, pointerUp, nothing]

/-- With a tool in use and nothing dragged, several pointer events do nothing either. -/
theorem run_pointer_of_tool (tool : e.draw.mode ≠ .normal) (nothing : e.draw.drag = none)
    (events : List (PointerEvent α)) : e.run (events.map PointerEvent.action) = e := by
  induction events with
  | nil => rfl
  | cons event rest ih =>
    rw [List.map_cons, run, List.foldl_cons, (step_pointer_of_tool tool nothing event).1]
    exact ih

/-- Drawing and dragging exclude each other in every reached editor. A drag goes on only while no tool is in use, and
then no drawing begins or ends. With a tool in use the pointer picks, moves and lets go of nothing, and however many of
its events there are, the editor is left as it is. -/
theorem Reached.drag_excludes_tool (hr : Reached settings ops history e) :
    (e.draw.drag.isSome →
      e.draw.mode = .normal ∧ e.drawStart = e ∧ ∀ ring, e.drawEnd ring = (e, .ignored)) ∧
    (e.draw.mode.isDrawing →
      (∀ pixel, e.pointerDown pixel = (e, false)) ∧ (∀ pixel, e.pointerDrag pixel = (e, .idle)) ∧
        e.pointerUp = (e, .idle) ∧ ∀ events : List (PointerEvent α), e.run (events.map PointerEvent.action) = e) := by
  refine ⟨fun hdrag => ?_, fun hdrawing => ?_⟩
  · have hnormal : e.draw.mode = .normal := by
      refine Classical.byContradiction fun htool => ?_
      rw [hr.dragsWithoutTool htool] at hdrag
      cases hdrag
    refine ⟨hnormal, ?_, fun ring => ?_⟩
    · simp [drawStart, DrawMode.isDrawing, hnormal]
    · simp [drawEnd, DrawController.drawEnd, DrawMode.provenance?, hnormal]
  · have htool : e.draw.mode ≠ .normal := by simpa [DrawMode.isDrawing] using hdrawing
    have hnothing := hr.dragsWithoutTool htool
    refine ⟨fun pixel => ?_, fun pixel => ?_, ?_, run_pointer_of_tool htool hnothing⟩
    · simp [pointerDown, DrawMode.allowsVertexEditing, htool]
    · simp [pointerDrag, hnothing]
    · simp [pointerUp, hnothing]

/-- A tool is chosen while a corner of a drawn box is dragged, and the pointer is moved on and let go. -/
def toolChosen : List (Action Rat) := cornerDragged ++ [.selectTool .selectFree]

/-- Before that no drawing ends, and from then on the pointer does nothing. -/
theorem drag_excludes_tool_toolChosen :
    (FlatWorld.start.run cornerDragged).drawEnd FlatWorld.bowtie = (FlatWorld.start.run cornerDragged, .ignored) ∧
      (FlatWorld.start.run toolChosen).run [.pointerDrag ⟨0, 0⟩, .pointerUp, .pointerDown ⟨512, 384⟩] =
        FlatWorld.start.run toolChosen := by
  have hr := (Reached.new FlatWorld.new?_eq_start).run cornerDragged
  have hr' := (Reached.new FlatWorld.new?_eq_start).run toolChosen
  exact ⟨(hr.drag_excludes_tool.1 (by decide +kernel)).2.2 _,
    (hr'.drag_excludes_tool.2 (by decide +kernel)).2.2.2 [.drag ⟨0, 0⟩, .up, .down ⟨512, 384⟩]⟩

end Editor

omit [Surface α] in
/-- What a selection has to be in order to say that it was drawn: one feature, with a bounding box that has a width and
a height, and a valid polygon if it was drawn freehand. -/
structure Provenance.Earned (ops : PlanarOps α) (p : Provenance) (c : FeatureCollection α) : Prop where
  boxed : ∃ f west south east north, c.features = [f] ∧ f.bbox = some [west, south, east, north] ∧
    west != east ∧ south != north
  valid : p = .free → ops.isValidPolygon c

/-- How selections come about that are drawn. -/
def Provenance.isDrawn : Provenance → Bool
  | .box | .free => true
  | _ => false

omit [Surface α] in
/-- A drawing that has an area and is valid if it was drawn freehand has earned its provenance. -/
theorem Provenance.earned_ofProjected {ops : PlanarOps α} {mode : DrawMode} {p : Provenance} {s : Shape α}
    (tool : mode.provenance? = some p) (wide : ¬ DrawController.isDegenerate (.ofProjected s))
    (valid : mode = .drawFree → ops.isValidPolygon (.ofProjected s)) : p.Earned ops (.ofProjected s) where
  boxed := by
    unfold DrawController.isDegenerate at wide
    split at wide
    · next west south east north hbox =>
      exact ⟨_, west, south, east, north, rfl, hbox, by simpa [bne] using wide⟩
    · exact absurd rfl wide
  valid hfree := valid (by cases mode <;> simp_all [DrawMode.provenance?])

namespace Turn

variable {t : Turn α} {r : SelectionRecord α}

/-- An accepted drawing leaves its tool, and a record of a collection that has earned its provenance. -/
theorem earned_of_drawn {ring : Polyline α} {s : Shape α} {c : FeatureCollection α} {p : Provenance}
    (drawing : t.action = .drawEnd ring) (accepted : t.reply = .drawn (.committed s c p)) :
    t.before.draw.mode.provenance? = some p ∧ t.after.draw.mode = .normal ∧
      (∃ r, t.after.session.record = some r ∧ r.initial = c ∧ r.provenance = p) ∧ p.Earned t.before.session.ops c := by
  have hmakes : t.makes := by simp [Turn.makes, drawing, accepted]
  cases making hmakes with
  | drawn _ reply tool wide valid after =>
    cases accepted.symm.trans reply
    rw [after]
    exact ⟨tool, rfl, ⟨_, rfl, rfl, rfl⟩, Provenance.earned_ofProjected tool wide valid⟩
  | viewSelected action => cases drawing.symm.trans action
  | given given => simp [drawing, Action.given?] at given

/-- A record that says it was drawn was made by an accepted drawing. -/
theorem drawn_of_makes (makes : t.makes) (made : t.after.session.record = some r) (drawn : r.provenance.isDrawn) :
    ∃ ring s, t.action = .drawEnd ring ∧ t.reply = .drawn (.committed s r.initial r.provenance) := by
  cases making makes with
  | drawn action reply _ _ _ after =>
    rw [after] at made
    cases made
    exact ⟨_, _, action, reply⟩
  | viewSelected _ after =>
    rw [after] at made
    cases made
    cases drawn
  | given given after =>
    rw [after] at made
    cases made
    cases haction : t.action with
    | applyPlace | importFeatures =>
      rw [haction] at given
      cases given
      cases drawn
    | _ =>
      rw [haction] at given
      cases given

/-- After the selection was dropped there is no record. -/
theorem record_of_clears (clears : t.clears) : t.after.session.record = none := by
  unfold Turn.clears at clears
  split at clears
  · next haction =>
    rw [after, haction]
    rfl
  · next haction =>
    rw [after, haction]
    rfl
  · cases clears

end Turn

namespace Editor

variable {settings : EditorSettings α} {ops : PlanarOps α} {history : History α} {e : Editor α}

/-- A record was made by some turn, and was neither dropped nor replaced since. Reverting goes back to what it was
then. -/
theorem Reached.made (hr : Reached settings ops history e) {r : SelectionRecord α}
    (selected : e.session.record = some r) :
    ∃ later t earlier, history = later ++ t :: earlier ∧ t.makes ∧ t.after.session.record = some r.reverted ∧
      ∀ u ∈ later, u.makes = false ∧ u.clears = false := by
  induction hr generalizing r with
  | new hnew =>
    obtain ⟨v, rfl⟩ := new?_eq_some hnew
    cases selected
  | view _ _ ih => exact ih selected
  | @act history e a _ ih =>
    have hselected : (Turn.mk e a).after.session.record = some r := selected
    cases hmakes : (Turn.mk e a).makes with
    | true =>
      obtain ⟨r', hr', hreverted⟩ := Turn.reverted_of_makes hmakes
      cases hselected.symm.trans hr'
      exact ⟨[], _, _, rfl, hmakes, by rw [hreverted]; exact hselected, by simp⟩
    | false =>
      have hclears : (Turn.mk e a).clears = false := by
        refine Bool.eq_false_iff.mpr fun hclears => ?_
        cases hselected.symm.trans (Turn.record_of_clears hclears)
      have hkept := Turn.reverted_of_kept hmakes hclears
      rw [hselected, Option.map_some, eq_comm, Option.map_eq_some_iff] at hkept
      obtain ⟨r₀, hr₀, hsame⟩ := hkept
      obtain ⟨later, t, earlier, rfl, hmade, hrecord, hlater⟩ := ih hr₀
      refine ⟨_ :: later, t, earlier, rfl, hmade, hsame ▸ hrecord, ?_⟩
      exact List.forall_mem_cons.mpr ⟨⟨hmakes, hclears⟩, hlater⟩

/-- Whatever was done before, an accepted drawing leaves its tool and a record with what was drawn, which has earned its
provenance. And a record that says it was drawn is one that an accepted drawing left, with what was drawn as its initial
collection; no record was made or dropped since. -/
theorem Reached.provenance_earned (hr : Reached settings ops history e) :
    (∀ t ∈ history, ∀ ring s c p, t.action = .drawEnd ring → t.reply = .drawn (.committed s c p) →
      t.before.draw.mode.provenance? = some p ∧ t.after.draw.mode = .normal ∧
        (∃ r, t.after.session.record = some r ∧ r.initial = c ∧ r.provenance = p) ∧ p.Earned ops c) ∧
    ∀ r, e.session.record = some r → r.provenance.isDrawn →
      r.provenance.Earned ops r.initial ∧
        ∃ later t earlier ring s, history = later ++ t :: earlier ∧ t.action = .drawEnd ring ∧
          t.reply = .drawn (.committed s r.initial r.provenance) ∧ ∀ u ∈ later, u.makes = false ∧ u.clears = false := by
  have hcommits : ∀ t ∈ history, ∀ ring s c p, t.action = .drawEnd ring → t.reply = .drawn (.committed s c p) →
      t.before.draw.mode.provenance? = some p ∧ t.after.draw.mode = .normal ∧
        (∃ r, t.after.session.record = some r ∧ r.initial = c ∧ r.provenance = p) ∧ p.Earned ops c := by
    intro t ht ring s c p haction hreply
    obtain ⟨later, earlier, rfl⟩ := List.append_of_mem ht
    obtain ⟨htool, hnormal, hrecord, hearned⟩ := Turn.earned_of_drawn haction hreply
    rw [hr.before.sameRules.ops] at hearned
    exact ⟨htool, hnormal, hrecord, hearned⟩
  refine ⟨hcommits, fun r hrecord hdrawn => ?_⟩
  obtain ⟨later, t, earlier, rfl, hmakes, hmade, hlater⟩ := hr.made hrecord
  obtain ⟨ring, s, haction, hreply⟩ := Turn.drawn_of_makes hmakes hmade hdrawn
  obtain ⟨-, -, -, hearned⟩ := hcommits t (List.mem_append_right _ List.mem_cons_self) _ _ _ _ haction hreply
  exact ⟨hearned, later, t, earlier, ring, s, rfl, haction, hreply, hlater⟩

/-- A ring without area is drawn, one that crosses itself, and after a change of tools a triangle. -/
def retried : List (Action Rat) :=
  [.selectTool .selectFree, .drawStart, .drawEnd [⟨0, 0⟩, ⟨300000000, 0⟩], .drawEnd FlatWorld.bowtie,
    .selectTool .selectBox, .selectTool .selectFree, .drawStart, .drawEnd [⟨0, 0⟩, ⟨300000000, 0⟩, ⟨0, 200000000⟩]]

/-- Of all these the triangle is selected, and it is valid. -/
theorem provenance_earned_retried :
    ∃ r, (FlatWorld.start.run retried).session.record = some r ∧ r.provenance = .free ∧
      FlatWorld.planarOps.isValidPolygon r.initial := by
  have hr := (Reached.new FlatWorld.new?_eq_start).run retried
  have hfree : (FlatWorld.start.run retried).session.record.map (·.provenance) = some .free := by decide +kernel
  obtain ⟨r, hrecord, hprovenance⟩ := Option.map_eq_some_iff.mp hfree
  exact ⟨r, hrecord, hprovenance, (hr.provenance_earned.2 r hrecord (by rw [hprovenance]; rfl)).1.valid hprovenance⟩

end Editor

end AreaOfInterest
