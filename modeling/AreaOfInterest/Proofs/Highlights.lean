import AreaOfInterest.Proofs.Hovering

/-!
# The highlight

Hovering and dragging set the highlight, and it is meant for a vertex on the layer that can be picked. It strays in
three ways only. The pointer highlights under a drawing tool too, where nothing can be picked. Another selection is put
onto the layer, which leaves the highlight where it was. And a drag that such a selection left without its vertex sets
it to a position where there is none.

Every other turn keeps a good highlight good, or drops it.
-/

namespace AreaOfInterest

variable {α : Type} [Scalar α]

namespace Editor

/-- The highlight, if there is one, is a vertex on the layer while no drawing tool is in use. -/
def HighlightLive (e : Editor α) : Prop := ∀ c, e.marker = some c → e.draw.mode = .normal ∧ c ∈ e.vertices

variable {e : Editor α}

omit [Scalar α] in
/-- Without a highlight there is nothing to be out of date. -/
theorem highlightLive_of_none (h : e.marker = none) : e.HighlightLive := by
  intro c hc
  cases h.symm.trans hc

omit [Scalar α] in
/-- Under a drawing tool a good highlight is none. -/
theorem HighlightLive.marker_eq_none (h : e.HighlightLive) (tool : e.draw.mode ≠ .normal) : e.marker = none :=
  Option.eq_none_iff_forall_ne_some.mpr fun c hc => tool (h c hc).1

omit [Scalar α] in
/-- A highlight stays good with the layer, in the same mode or in none. -/
theorem HighlightLive.keep {e' : Editor α} (h : e.HighlightLive) (marker : e'.marker = e.marker)
    (layer : e'.layer = e.layer) (mode : e'.draw.mode = e.draw.mode ∨ e'.draw.mode = .normal) : e'.HighlightLive := by
  intro c hc
  obtain ⟨hnormal, hmem⟩ := h c (marker ▸ hc)
  refine ⟨mode.elim (·.trans hnormal) id, ?_⟩
  rwa [vertices, layer]

/-- The pointer's move answers with the highlight that it leaves. -/
theorem pointerMove_marker (e : Editor α) (pixel : Coord α) :
    (e.pointerMove pixel).1.marker = (e.pointerMove pixel).2 := by
  unfold pointerMove
  split
  · rfl
  · split <;> rfl

/-- With nothing in its grip, the pointer highlights a vertex on the layer or nothing. -/
theorem mem_vertices_of_pointerMove {pixel c : Coord α} (idle : e.draw.drag = none)
    (h : (e.pointerMove pixel).2 = some c) : c ∈ e.vertices := by
  rw [pointerMove_snd idle] at h
  obtain ⟨drag, hhit, rfl⟩ := Option.map_eq_some_iff.mp h
  exact mem_vertices_iff.mpr ⟨drag, liveOn_of_hitVertex? (e := e.broughtBack) hhit, rfl⟩

/-- With no tool in use and nothing in its grip, the pointer's move leaves a good highlight, whatever it was before. -/
theorem highlightLive_pointerMove (normal : e.draw.mode = .normal) (idle : e.draw.drag = none) (pixel : Coord α) :
    (e.pointerMove pixel).1.HighlightLive := by
  intro c hc
  have hmem := mem_vertices_of_pointerMove idle ((e.pointerMove_marker pixel).symm.trans hc)
  obtain ⟨v, marker, hmove⟩ := e.pointerMove_eq pixel
  rw [hmove]
  exact ⟨normal, hmem⟩

/-- A vertex that is moved takes the highlight along. -/
theorem marker_of_moved [Surface α] {pixel : Coord α} (h : (e.pointerDrag pixel).2 = .moved) :
    (e.pointerDrag pixel).1.marker = some (e.viewport.coordAt pixel) := by
  have hend := e.pointerDrag_ends pixel
  rw [h] at hend
  generalize (e.pointerDrag pixel).1 = e' at hend
  cases hend with
  | moved => rfl

end Editor

variable [Surface α]

namespace Turn

/-- The ways in which a turn leads the highlight astray. -/
inductive Strays (t : Turn α) : Prop where
  /-- The pointer highlights a vertex under a drawing tool. -/
  | underTool {pixel c : Coord α} (action : t.action = .pointerMove pixel) (tool : t.before.draw.mode ≠ .normal)
      (reply : t.reply = .highlighted (some c))
  /-- The layer is taken by a selection without the vertex that is highlighted. -/
  | replaced {c : Coord α} (reloads : t.reloads) (marked : t.before.marker = some c) (gone : c ∉ t.after.vertices)
  /-- A drag that is not on the layer, or was not at a finite position, moves something else than its vertex. -/
  | lost {pixel : Coord α} {drag : VertexDrag α} (action : t.action = .pointerDrag pixel)
      (reply : t.reply = .dragged .moved) (dragged : t.before.draw.drag = some drag)
      (loose : ¬ drag.LiveOn t.before.layer ∨ ¬ drag.coordinate.IsFinite)
      (gone : t.before.viewport.coordAt pixel ∉ t.after.vertices)

/-- What the turn does at which the pointer moves. -/
theorem step_of_pointerMove {t : Turn α} {pixel : Coord α} (action : t.action = .pointerMove pixel) :
    t.after = (t.before.pointerMove pixel).1 ∧ t.reply = .highlighted (t.before.pointerMove pixel).2 := by
  rw [after, reply, action]
  exact ⟨rfl, rfl⟩

/-- What the turn does at which the pointer drags. -/
theorem step_of_pointerDrag {t : Turn α} {pixel : Coord α} (action : t.action = .pointerDrag pixel) :
    t.after = (t.before.pointerDrag pixel).1 ∧ t.reply = .dragged (t.before.pointerDrag pixel).2 := by
  rw [after, reply, action]
  exact ⟨rfl, rfl⟩

/-- Putting a selection onto the layer leaves the highlight as it was. -/
theorem marker_of_reloads {t : Turn α} (h : t.reloads) : t.after.marker = t.before.marker := by
  cases t.course with
  | declined _ after | began _ _ _ after | crossed _ _ _ after | drawn _ _ _ _ _ after | picked _ _ _ _ after
  | viewSelected _ _ after | selected _ _ after | previewed _ _ _ after | closed _ _ after | buffered _ _ _ after
  | reverted _ _ _ after => exact (congrArg Editor.marker after).trans rfl
  | looked action =>
    simp only [reloads] at h
    split at h <;> simp_all [Action.looks]
  | chosen action | offLayer action | unselected action | edited action | rejected action | moved action =>
    simp [reloads, action] at h
  | cancelled action => obtain ⟨action, -⟩ | ⟨action, -⟩ := action <;> simp [reloads, action] at h

/-- After a turn that leads it astray the highlight is not good, however it was before. -/
theorem Strays.not_highlightLive {t : Turn α} (h : t.Strays) : ¬ t.after.HighlightLive := by
  intro hlive
  cases h with
  | @underTool pixel c action tool reply =>
    obtain ⟨hafter, hreply⟩ := step_of_pointerMove action
    obtain ⟨v, marker, hmove⟩ := t.before.pointerMove_eq pixel
    have hmode : t.after.draw.mode = t.before.draw.mode := by rw [hafter, hmove]
    have hmarker : t.after.marker = some c := by
      rw [hafter, Editor.pointerMove_marker, ← Reply.highlighted.inj (hreply.symm.trans reply)]
    exact tool (hmode ▸ (hlive c hmarker).1)
  | replaced reloads marked gone => exact gone (hlive _ ((marker_of_reloads reloads).trans marked)).2
  | @lost pixel drag action reply _ _ gone =>
    obtain ⟨hafter, hreply⟩ := step_of_pointerDrag action
    refine gone (hlive _ ?_).2
    rw [hafter]
    exact Editor.marker_of_moved (Reply.dragged.inj (hreply.symm.trans reply))

/-- The pointer's move keeps a good highlight good, unless it highlights under a tool. -/
theorem highlightLive_of_pointerMove {t : Turn α} {pixel : Coord α} (action : t.action = .pointerMove pixel)
    (live : t.before.HighlightLive) (holds : ¬ t.Strays) : t.after.HighlightLive := by
  obtain ⟨hafter, hreply⟩ := step_of_pointerMove action
  rw [hafter]
  cases hdrag : t.before.draw.drag with
  | some drag =>
    have hsame : (t.before.pointerMove pixel).1 = t.before := by simp [Editor.pointerMove, hdrag]
    rwa [hsame]
  | none =>
    by_cases hnormal : t.before.draw.mode = .normal
    · exact Editor.highlightLive_pointerMove hnormal hdrag pixel
    · refine Editor.highlightLive_of_none ?_
      rw [Editor.pointerMove_marker]
      exact Option.eq_none_iff_forall_ne_some.mpr fun c hc => holds (.underTool action hnormal (hc ▸ hreply))

/-- A drag on the layer takes the highlight to its vertex. -/
theorem highlightLive_of_moved [SelfClose α] {t : Turn α} {pixel : Coord α} {drag : VertexDrag α} {shape : Shape α}
    {polygon : Polygon α} {ring : Polyline α} (tools : t.before.DragsWithoutTool) (holds : ¬ t.Strays)
    (action : t.action = .pointerDrag pixel) (reply : t.reply = .dragged .moved)
    (dragged : t.before.draw.drag = some drag) (there : t.before.layer[drag.feature]? = some shape)
    (part : shape.polygonAt? drag.polygon = some polygon)
    (accepted : Ring.drag? polygon.exterior drag (t.before.viewport.coordAt pixel) = some ring)
    (after : t.after = t.before.moved drag shape polygon ring (t.before.viewport.coordAt pixel)) :
    t.after.HighlightLive := by
  have hnormal : t.before.draw.mode = .normal := by
    by_contra htool
    cases dragged.symm.trans (tools htool)
  intro c hc
  have hmode : t.after.draw.mode = .normal := by rw [after]; exact hnormal
  have htarget : t.before.viewport.coordAt pixel = c := by rw [after] at hc; exact Option.some.inj hc
  subst htarget
  refine ⟨hmode, Classical.byContradiction fun hgone => ?_⟩
  by_cases hloose : ¬ drag.LiveOn t.before.layer ∨ ¬ drag.coordinate.IsFinite
  · exact holds (.lost action reply dragged hloose hgone)
  · obtain ⟨hlive, hfinite⟩ := not_or.mp hloose
    have hmoved := Editor.dragLive_moved (not_not.mp hlive) (not_not.mp hfinite) there part accepted
    refine hgone ?_
    rw [after]
    exact Editor.mem_vertices_iff.mpr ⟨_, hmoved _ rfl, rfl⟩

/-- A selection that is put onto the layer keeps a good highlight good when it has the vertex. -/
theorem highlightLive_of_reloads {t : Turn α} {e : Editor α} (reloads : t.reloads) (live : t.before.HighlightLive)
    (holds : ¬ t.Strays) (after : t.after = e)
    (mode : e.draw.mode = t.before.draw.mode ∨ e.draw.mode = .normal) : t.after.HighlightLive := by
  intro c hc
  have hmarked : t.before.marker = some c := (marker_of_reloads reloads).symm.trans hc
  refine ⟨?_, Classical.byContradiction fun hgone => holds (.replaced reloads hmarked hgone)⟩
  rw [after]
  exact mode.elim (·.trans (live c hmarked).1) id

/-- A turn that does not lead the highlight astray keeps a good one good. -/
theorem highlightLive [SelfClose α] {t : Turn α} (live : t.before.HighlightLive) (tools : t.before.DragsWithoutTool)
    (holds : ¬ t.Strays) : t.after.HighlightLive := by
  cases t.course with
  | declined _ after | picked _ _ _ _ after | previewed _ _ _ after | closed _ _ after =>
    rw [after]
    exact live.keep rfl rfl (.inl rfl)
  | @looked v marker action _ after =>
    cases haction : t.action with
    | pointerMove pixel => exact highlightLive_of_pointerMove haction live holds
    | zoomToSelection =>
      obtain ⟨v, hv⟩ := t.before.zoomToSelection_eq
      have hafter : t.after = { t.before with viewport := v } := by simp [Turn.after, Editor.step, haction, hv]
      rw [hafter]
      exact live.keep rfl rfl (.inl rfl)
    | resetMap | moveView m =>
      have hmarker : t.after.marker = t.before.marker := by simp [Turn.after, Editor.step, haction]
      exact live.keep hmarker (by rw [after]) (.inl (by rw [after]))
    | _ => simp [haction, Action.looks] at action
  | chosen _ _ _ after | cancelled _ after | offLayer _ _ _ _ after | unselected _ _ _ _ _ after
  | edited _ _ _ _ _ _ after | rejected _ _ _ _ _ after =>
    exact Editor.highlightLive_of_none (congrArg Editor.marker after)
  | began _ _ tool after => exact Editor.highlightLive_of_none (by rw [after]; exact live.marker_eq_none tool)
  | crossed _ _ free after =>
    exact Editor.highlightLive_of_none (by rw [after]; exact live.marker_eq_none (by simp [free]))
  | drawn _ _ tool _ _ after =>
    have htool : t.before.draw.mode ≠ .normal := fun hnormal => by simp [hnormal, DrawMode.provenance?] at tool
    exact Editor.highlightLive_of_none (by rw [after]; exact live.marker_eq_none htool)
  | moved action reply dragged there part accepted after =>
    exact highlightLive_of_moved tools holds action reply dragged there part accepted after
  | viewSelected action _ after =>
    exact highlightLive_of_reloads (by simp [reloads, action]) live holds after (.inr rfl)
  | selected action _ after => exact highlightLive_of_reloads (reloads_of_selects action) live holds after (.inr rfl)
  | buffered action reply _ after =>
    have hreloads : t.reloads := by obtain action | action := action <;> simp [reloads, action, reply]
    exact highlightLive_of_reloads hreloads live holds after (.inl rfl)
  | reverted action reply _ after =>
    exact highlightLive_of_reloads (by simp [reloads, action, reply]) live holds after (.inl rfl)

end Turn

namespace Editor

variable {settings : EditorSettings α} {ops : PlanarOps α} {history : History α} {e : Editor α}

/-- The highlight is good all along a run exactly when no turn of it leads it astray. -/
theorem Reached.highlight_live_iff [SelfClose α] (hr : Reached settings ops history e) :
    ((∀ t ∈ history, t.after.HighlightLive) ∧ e.HighlightLive) ↔ ∀ t ∈ history, ¬ t.Strays := by
  refine ⟨fun h t ht hstrays => hstrays.not_highlightLive (h.1 t ht), fun h => ?_⟩
  induction hr with
  | new hnew =>
    obtain ⟨v, rfl⟩ := new?_eq_some hnew
    exact ⟨by simp, highlightLive_of_none rfl⟩
  | @act earlier e a hr ih =>
    obtain ⟨hhere, hthere⟩ := List.forall_mem_cons.mp h
    obtain ⟨hearlier, hlive⟩ := ih hthere
    have hafter : (Turn.mk e a).after.HighlightLive := Turn.highlightLive hlive hr.dragsWithoutTool hhere
    exact ⟨List.forall_mem_cons.mpr ⟨hafter, hearlier⟩, hafter⟩
  | view _ _ ih => exact ⟨(ih h).1, (ih h).2.keep rfl rfl (.inl rfl)⟩

/-- A corner of the drawn box is highlighted, dragged outwards and let go, and the pointer moves on a little. -/
def cornerFollowed : List (Action Rat) :=
  FlatWorld.boxDrawn ++
    [.pointerMove (FlatWorld.start.viewport.pixelOf ⟨0, 0⟩), .pointerDown (FlatWorld.start.viewport.pixelOf ⟨0, 0⟩),
      .pointerDrag (FlatWorld.start.viewport.pixelOf ⟨-100000000, -100000000⟩), .pointerUp,
      .pointerMove (FlatWorld.start.viewport.pixelOf ⟨-100000000, -100000000⟩)]

/-- The corner is highlighted where it was let go. -/
theorem highlight_live_cornerFollowed :
    (FlatWorld.start.run cornerFollowed).marker = some ⟨-100000000, -100000000⟩ ∧
      (FlatWorld.start.run cornerFollowed).HighlightLive := by
  have hr := (Reached.new FlatWorld.new?_eq_start).run cornerFollowed
  have hkept : (FlatWorld.start.turns cornerFollowed []).all (!·.reloads) := by decide +kernel
  have hfree : (FlatWorld.start.turns cornerFollowed []).all fun t =>
      match t.action with
      | .pointerMove _ => t.before.draw.mode = .normal
      | _ => true := by decide +kernel
  have hfound : (FlatWorld.start.turns cornerFollowed []).all fun t =>
      match t.action with
      | .pointerDrag pixel => t.before.viewport.coordAt pixel ∈ t.after.vertices
      | _ => true := by decide +kernel
  refine ⟨by decide +kernel, (hr.highlight_live_iff.mpr fun t ht hstrays => ?_).2⟩
  cases hstrays with
  | underTool action tool =>
    have hnormal := List.all_eq_true.mp hfree t ht
    simp only [action, decide_eq_true_eq] at hnormal
    exact tool hnormal
  | replaced reloads => simpa [reloads] using List.all_eq_true.mp hkept t ht
  | lost action _ _ _ gone =>
    have hmem := List.all_eq_true.mp hfound t ht
    simp only [action, decide_eq_true_eq] at hmem
    exact gone hmem

/-- A corner of the drawn box is highlighted, and then a point is imported. -/
def importedWhileHighlighted : List (Action Rat) :=
  FlatWorld.boxDrawn ++
    [.pointerMove (FlatWorld.start.viewport.pixelOf ⟨0, 0⟩),
      .importFeatures (.single (.ofGeometry (.point [0, 0]))) "point"]

/-- A box is drawn, its tool is chosen again, and the pointer moves over a corner. -/
def highlightedUnderTool : List (Action Rat) :=
  FlatWorld.boxDrawn ++ [.selectTool .selectBox, .pointerMove (FlatWorld.start.viewport.pixelOf ⟨0, 0⟩)]

/-- The corner is still highlighted after the import, though no vertex is left, and it is highlighted while the tool is
in use. -/
theorem not_highlight_live :
    (Reached .default FlatWorld.planarOps (FlatWorld.start.turns importedWhileHighlighted [])
        (FlatWorld.start.run importedWhileHighlighted) ∧
      (FlatWorld.start.run importedWhileHighlighted).marker = some ⟨0, 0⟩ ∧
      (FlatWorld.start.run importedWhileHighlighted).vertices = []) ∧
    Reached .default FlatWorld.planarOps (FlatWorld.start.turns highlightedUnderTool [])
        (FlatWorld.start.run highlightedUnderTool) ∧
      (FlatWorld.start.run highlightedUnderTool).marker = some ⟨0, 0⟩ ∧
      (FlatWorld.start.run highlightedUnderTool).draw.mode = .drawBox := by
  have hstart := Reached.new FlatWorld.new?_eq_start
  refine ⟨⟨hstart.run importedWhileHighlighted, ?_⟩, hstart.run highlightedUnderTool, ?_⟩
  · decide +kernel
  · decide +kernel

end Editor

end AreaOfInterest
