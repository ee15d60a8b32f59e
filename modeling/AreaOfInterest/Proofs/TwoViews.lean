import AreaOfInterest.Proofs.FlatWorld
import AreaOfInterest.Proofs.Views

/-!
# The view decides nothing

Some actions go by where the map is: they are aimed by a pixel, or take what is shown. All others are blind to it,
although several of them move the view or read its projection. So two editors that differ in their views alone stay
such editors under a common blind action, and answer alike. Moving the view of one of them changes nothing about that.

Hence two runs that have their blind actions in common end with the same selection, however often and wherever the view
is moved in between, in each of them differently.
-/

namespace AreaOfInterest

variable {α : Type}

/-- Actions that go by where the map is: they are aimed by a pixel, or take what is shown. -/
def Action.aims : Action α → Bool
  | .pointerDown _ | .pointerDrag _ | .pointerMove _ | .selectMapView => true
  | _ => false

/-- Actions that move the view at will. -/
def Action.movesView : Action α → Bool
  | .moveView _ => true
  | _ => false

variable [Scalar α]

/-- The editors that are there under different views: one but for its view, both views such as can be made. -/
structure Editor.SameButView (e e' : Editor α) : Prop where
  eq : e' = { e with viewport := e'.viewport }
  built : e.viewport.Built
  built' : e'.viewport.Built

namespace Editor.SameButView

variable {e e' e'' : Editor α}

/-- An editor is the same as itself. -/
theorem refl (h : e.viewport.Built) : e.SameButView e := ⟨rfl, h, h⟩

/-- Which of the two is looked at does not matter. -/
theorem symm (h : e.SameButView e') : e'.SameButView e := by
  refine ⟨?_, h.built', h.built⟩
  rw [h.eq]

/-- Two editors are the same but for the view if a third one is the same as both. -/
theorem trans (h : e.SameButView e') (h' : e'.SameButView e'') : e.SameButView e'' := by
  refine ⟨?_, h.built, h'.built'⟩
  rw [h'.eq, h.eq]

/-- Under another view an editor is the same but for it. -/
theorem view (h : e.viewport.Built) {v : Viewport α} (built : v.Built) :
    e.SameButView { e with viewport := v } := ⟨rfl, h, built⟩

end Editor.SameButView

variable [Surface α]

namespace Editor

/-- A buffer is applied or refused alike under another view. -/
theorem applyBuffer_view (e : Editor α) (v : Viewport α) (distance : α) :
    { e with viewport := v }.applyBuffer distance =
      ({ (e.applyBuffer distance).1 with viewport := v }, (e.applyBuffer distance).2) := by
  simp only [applyBuffer]
  rcases e.session.applyBuffer distance with ⟨session, _ | _⟩ <;> rfl

omit [Surface α] in
/-- The view is fitted to the same layer, and nothing else is changed. -/
theorem zoomToSelection_view (e : Editor α) (v : Viewport α) :
    ∃ w, { e with viewport := v }.zoomToSelection = { e.zoomToSelection with viewport := w } := by
  obtain ⟨w, hw⟩ := zoomToSelection_eq { e with viewport := v }
  obtain ⟨u, hu⟩ := zoomToSelection_eq e
  exact ⟨w, by rw [hw, hu]⟩

/-- An action that is blind does the same under another view of the same world, but for the view that it leaves. -/
theorem step_view (e : Editor α) {v : Viewport α} (projection : v.projection = e.viewport.projection)
    {a : Action α} (blind : a.aims = false) :
    ∃ w, { e with viewport := v }.step a = ({ (e.step a).1 with viewport := w }, (e.step a).2) := by
  cases a with
  | pointerDown | pointerDrag | pointerMove | selectMapView => cases blind
  | selectTool event =>
    by_cases hcancel : event = .cancel
    · exact ⟨v.snapped, by simp only [step, selectTool, if_pos hcancel]; rfl⟩
    · exact ⟨v.snapped, by simp only [step, selectTool, if_neg hcancel]; rfl⟩
  | cancel => exact ⟨v.snapped, rfl⟩
  | drawStart =>
    refine ⟨v, ?_⟩
    simp only [step, drawStart]
    split <;> rfl
  | drawEnd ring =>
    refine ⟨v, ?_⟩
    simp only [step, drawEnd, projection]
    cases (e.draw.drawEnd ring e.viewport.projection e.session.ops).2 with
    | committed | invalid | degenerate | ignored => rfl
  | pointerUp =>
    refine ⟨v, ?_⟩
    simp only [step, pointerUp, projection]
    cases e.draw.drag with
    | none => rfl
    | some drag =>
      dsimp only
      cases e.layer[drag.feature]? with
      | none => rfl
      | some shape =>
        dsimp only
        split
        · rcases e.session.commitEdit _ with ⟨session, _ | _⟩ <;> rfl
        · rfl
  | applyPlace place =>
    obtain ⟨w, hw⟩ := zoomToSelection_view
      { e.handle .cancel with session := e.session.selectPlace place }.showWorking v.snapped
    exact ⟨w, Prod.ext hw rfl⟩
  | importFeatures c name =>
    obtain ⟨w, hw⟩ := zoomToSelection_view
      { e.handle .cancel with session := e.session.selectImport c name }.showWorking v.snapped
    exact ⟨w, Prod.ext hw rfl⟩
  | previewBuffer distance =>
    refine ⟨v, ?_⟩
    simp only [step, previewBuffer]
    cases e.session.previewBuffer distance with
    | error failure => rfl
    | ok c => rfl
  | commitBuffer =>
    refine ⟨v, ?_⟩
    simp only [step, commitBuffer, applyBuffer_view e v e.pendingBuffer]
    split <;> rfl
  | closeBufferDialog => exact ⟨v, rfl⟩
  | applyBuffer distance => exact ⟨v, by simp only [step, applyBuffer_view e v distance]⟩
  | revert =>
    refine ⟨v, ?_⟩
    simp only [step, revert]
    rcases e.session.revert with ⟨session, _ | _⟩ <;> rfl
  | zoomToSelection =>
    obtain ⟨w, hw⟩ := zoomToSelection_view e v
    exact ⟨w, Prod.ext hw rfl⟩
  | resetMap => exact ⟨v.resetToWorld, rfl⟩
  | moveView m => exact ⟨v.move m, rfl⟩

/-- Two editors that differ in their views alone still do so after a blind action, and have answered alike. -/
theorem SameButView.step {e e' : Editor α} (h : e.SameButView e') {a : Action α} (blind : a.aims = false) :
    (e.step a).1.SameButView (e'.step a).1 ∧ (e.step a).2 = (e'.step a).2 := by
  have hprojection : e'.viewport.projection = e.viewport.projection := by
    rw [h.built.projection_eq, h.built'.projection_eq]
  obtain ⟨w, hw⟩ := step_view e hprojection blind
  rw [← h.eq] at hw
  refine ⟨⟨?_, Turn.built ⟨e, a⟩ h.built, Turn.built ⟨e', a⟩ h.built'⟩, ?_⟩
  · rw [hw]
  · rw [hw]

/-- The answers to several actions. -/
def replies (e : Editor α) : List (Action α) → List (Reply α)
  | [] => []
  | a :: rest => (e.step a).2 :: replies (e.step a).1 rest

/-- The answers to more actions come after the ones before. -/
theorem replies_append (e : Editor α) (actions more : List (Action α)) :
    e.replies (actions ++ more) = e.replies actions ++ (e.run actions).replies more := by
  induction actions generalizing e with
  | nil => rfl
  | cons a rest ih => exact congrArg ((e.step a).2 :: ·) (ih (e.step a).1)

/-- Two editors that differ in their views alone still do so after several blind actions, and have answered alike. -/
theorem SameButView.run {e e' : Editor α} (h : e.SameButView e') {actions : List (Action α)}
    (blind : ∀ a ∈ actions, a.aims = false) :
    (e.run actions).SameButView (e'.run actions) ∧ e.replies actions = e'.replies actions := by
  induction actions generalizing e e' with
  | nil => exact ⟨h, rfl⟩
  | cons a rest ih =>
    obtain ⟨ha, hrest⟩ := List.forall_mem_cons.mp blind
    obtain ⟨hsame, hreply⟩ := h.step ha
    obtain ⟨hrun, hreplies⟩ := ih hsame hrest
    exact ⟨hrun, by rw [replies, replies, hreply, hreplies]⟩

/-- What was done in some turns, the earliest first, apart from moving the view. -/
def commands (history : History α) : List (Action α) :=
  ((history.map (·.action)).filter (!·.movesView)).reverse

/-- The answers that were given in some turns, the earliest first, apart from those to moving the view. -/
def answers (history : History α) : List (Reply α) :=
  ((history.filter (!·.action.movesView)).map (·.reply)).reverse

/-- Of the turns of several actions the actions count that do not move the view. -/
theorem commands_turns (e : Editor α) (actions : List (Action α)) :
    commands (e.turns actions []) = actions.filter (!·.movesView) := by
  have hactions (e : Editor α) (history : History α) :
      (e.turns actions history).map (·.action) = actions.reverse ++ history.map (·.action) := by
    induction actions generalizing e history with
    | nil => rfl
    | cons a rest ih => rw [turns, ih, List.map_cons, List.reverse_cons, List.append_assoc, List.singleton_append]
  rw [commands, hactions, List.map_nil, List.append_nil, List.filter_reverse, List.reverse_reverse]

/-- Of turns that are blind apart from moving the view, what counts is what was done in them: doing just that leaves the
editor that they lead to, but for its view, and is answered as it was. -/
theorem Leads.sameButView {start e : Editor α} {history : History α} (hl : start.Leads history e)
    (built : start.viewport.Built) (blind : ∀ a ∈ commands history, a.aims = false) :
    (start.run (commands history)).SameButView e ∧ start.replies (commands history) = answers history := by
  induction hl with
  | here => exact ⟨.refl built, rfl⟩
  | view _ hview ih =>
    obtain ⟨hsame, hreplies⟩ := ih blind
    exact ⟨hsame.trans (.view hsame.built' hview), hreplies⟩
  | @act history e a _ ih =>
    cases hmoves : a.movesView with
    | true =>
      have hcommands : commands (⟨e, a⟩ :: history) = commands history := by simp [commands, hmoves]
      have hanswers : answers (⟨e, a⟩ :: history) = answers history := by simp [answers, hmoves]
      rw [hcommands] at blind ⊢
      obtain ⟨hsame, hreplies⟩ := ih blind
      obtain ⟨m, rfl⟩ : ∃ m, a = .moveView m := by
        cases a with
        | moveView m => exact ⟨m, rfl⟩
        | _ => cases hmoves
      exact ⟨hsame.trans (.view hsame.built' (hsame.built'.move m)), hreplies.trans hanswers.symm⟩
    | false =>
      have hcommands : commands (⟨e, a⟩ :: history) = commands history ++ [a] := by simp [commands, hmoves]
      have hanswers : answers (⟨e, a⟩ :: history) = answers history ++ [(e.step a).2] := by
        simp [answers, hmoves, Turn.reply]
      rw [hcommands] at blind ⊢
      obtain ⟨hblind, ha⟩ := List.forall_mem_append.mp blind
      obtain ⟨hsame, hreplies⟩ := ih hblind
      obtain ⟨hstep, hreply⟩ := hsame.step (ha a List.mem_cons_self)
      refine ⟨?_, ?_⟩
      · rw [Editor.run, List.foldl_append]
        exact hstep
      · rw [replies_append, hreplies, hanswers, ← hreply]
        rfl

/-- Two runs that start with editors of the same state but for the view, and in which the same is done apart from moving
the view, end with editors of the same state but for the view, and with the same answers, as long as nothing in them is
aimed by a pixel or takes what is shown. -/
theorem Leads.selection_ignores_view {start start' e e' : Editor α} {history history' : History α}
    (same : start.SameButView start') (hl : start.Leads history e) (hl' : start'.Leads history' e')
    (common : commands history = commands history') (blind : ∀ a ∈ commands history, a.aims = false) :
    e' = { e with viewport := e'.viewport } ∧ answers history = answers history' := by
  obtain ⟨hpurged, hanswers⟩ := hl.sameButView same.built blind
  obtain ⟨hpurged', hanswers'⟩ := hl'.sameButView same.built' (common ▸ blind)
  obtain ⟨hruns, hreplies⟩ := same.run blind
  rw [← common] at hpurged' hanswers'
  exact ⟨((hpurged.symm.trans hruns).trans hpurged').eq, by rw [← hanswers, hreplies, hanswers']⟩

/-- A drawn box is previewed with a buffer and selected so, a triangle is drawn, and meanwhile the view goes east. -/
def doneGoingEast : List (Action Rat) :=
  [.moveView (.setCenter ⟨1000000000, 0⟩), .previewBuffer 1000, .commitBuffer, .selectTool .selectFree,
    .moveView (.setCenter ⟨7000000000, 0⟩), .drawEnd [⟨0, 0⟩, ⟨300000000, 0⟩, ⟨0, 200000000⟩], .zoomToSelection]

/-- The same is done while the view is zoomed and goes west in the end. -/
def doneGoingWest : List (Action Rat) :=
  [.previewBuffer 1000, .moveView (.setZoom 5), .commitBuffer, .selectTool .selectFree,
    .drawEnd [⟨0, 0⟩, ⟨300000000, 0⟩, ⟨0, 200000000⟩], .moveView .resetToWorld, .zoomToSelection,
    .moveView (.setCenter ⟨-1000000000, 0⟩)]

/-- A small view just made is put in the place of the one of the other editor, and still the same triangle is selected
and shown by both. -/
theorem selection_ignores_view_apart :
    let start := FlatWorld.start.run FlatWorld.boxDrawn
    let start' := { start with viewport := .new 300 200 }
    (start.run doneGoingEast).session.record.any (·.provenance = .free) ∧
      (start.run doneGoingEast).viewport ≠ (start'.run doneGoingWest).viewport ∧
      (start'.run doneGoingWest).layer = (start.run doneGoingEast).layer ∧
      (start'.run doneGoingWest).session = (start.run doneGoingEast).session ∧
      answers (start'.turns doneGoingWest []) = answers (start.turns doneGoingEast []) := by
  intro start start'
  have hbuilt : start.viewport.Built := ((Reached.new FlatWorld.new?_eq_start).run FlatWorld.boxDrawn).built
  have hcommon : commands (start.turns doneGoingEast []) = commands (start'.turns doneGoingWest []) := by
    rw [commands_turns, commands_turns]
    rfl
  obtain ⟨hsame, hanswers⟩ := Leads.selection_ignores_view (SameButView.view hbuilt (.new 300 200))
    (Leads.run .here doneGoingEast) (Leads.run .here doneGoingWest) hcommon (by rw [commands_turns]; decide)
  exact ⟨by decide +kernel, by decide +kernel, congrArg (fun e => e.layer) hsame,
    congrArg (fun e => e.session) hsame, hanswers.symm⟩

end Editor

end AreaOfInterest
