import AreaOfInterest.Proofs.FlatWorld
import AreaOfInterest.Proofs.Sessions

/-!
# Reverting is exact

A record keeps the collection that it was made of, however it is edited, buffered or reverted afterwards. Neither do
its labels change. So for as long as a record is neither dropped nor replaced, reverting brings back the very record
that was made.

The map goes back with it. Nothing is left of a buffer preview or of an invalid drawing, and whether the selection may
be used is judged by the collection of the start.
-/

namespace AreaOfInterest

variable {α : Type} [Scalar α]

/-- What reverting makes of a record. -/
def SelectionRecord.reverted (r : SelectionRecord α) : SelectionRecord α :=
  { r with working := r.initial, base := r.initial, buffer := 0.0 }

/-- A new record is the one that reverting goes back to. -/
theorem Session.reverted_select (s : Session α) (c : FeatureCollection α) (provenance : Provenance)
    (title description : String) :
    ∃ r, (s.select c provenance title description).record = some r ∧ r.reverted = r := ⟨_, rfl, rfl⟩

variable [Surface α]

namespace Turn

/-- Whether a turn makes a new record. -/
def makes (t : Turn α) : Bool :=
  match t.action, t.reply with
  | .drawEnd _, .drawn (.committed ..) => true
  | .selectMapView, .selected _ => true
  | .applyPlace _, .done | .importFeatures .., .done => true
  | _, _ => false

/-- A turn that makes no record and drops none keeps what reverting goes back to. -/
theorem reverted_of_kept {t : Turn α} (makes : t.makes = false) (clears : t.clears = false) :
    t.after.session.record.map SelectionRecord.reverted = t.before.session.record.map SelectionRecord.reverted := by
  cases t.course with
  | declined _ after | looked _ _ after | chosen _ _ _ after | began _ _ _ after | crossed _ _ _ after
  | picked _ _ _ _ after | moved _ _ _ _ _ _ after | offLayer _ _ _ _ after | unselected _ _ _ _ _ after
  | rejected _ _ _ _ _ after | previewed _ _ _ after | closed _ _ after =>
    exact congrArg (fun e => e.session.record.map SelectionRecord.reverted) after
  | cancelled action => obtain ⟨action, -⟩ | ⟨action, -⟩ := action <;> simp [Turn.clears, action] at clears
  | drawn action reply | viewSelected action reply => simp [Turn.makes, action, reply] at makes
  | selected action reply => cases haction : t.action <;> simp_all [Turn.makes, Action.selects]
  | edited _ _ _ _ _ committed after =>
    obtain ⟨r, hrecord, rfl⟩ := Session.commitEdit_eq_ok_iff.mp committed
    rw [after, hrecord]
    rfl
  | buffered _ _ applied after =>
    obtain ⟨r, hrecord, -, rfl⟩ := Session.applyBuffer_eq_ok_iff.mp applied
    rw [after, hrecord]
    rfl
  | reverted _ _ reverted after =>
    obtain ⟨r, hrecord, -, rfl⟩ := Session.revert_eq_ok_iff.mp reverted
    rw [after, hrecord]
    rfl

/-- A turn that makes a record renews what buffers are computed from. -/
theorem renews_of_makes {t : Turn α} (h : t.makes) : t.renews := by
  unfold makes at h
  unfold renews
  split at h <;> simp_all

/-- How a turn comes to make a record: by a drawing that is accepted, by the view, or of a collection that is given. -/
inductive Making (t : Turn α) : Prop where
  | drawn {ring : Polyline α} {provenance : Provenance} (action : t.action = .drawEnd ring)
      (reply : t.reply =
        .drawn (.committed (t.before.sketched ring) (.ofProjected (t.before.sketched ring)) provenance))
      (tool : t.before.draw.mode.provenance? = some provenance)
      (wide : ¬ DrawController.isDegenerate (.ofProjected (t.before.sketched ring)))
      (valid : t.before.draw.mode = .drawFree →
        t.before.session.ops.isValidPolygon (.ofProjected (t.before.sketched ring)))
      (after : t.after = t.before.drawn ring provenance)
  | viewSelected (action : t.action = .selectMapView) (after : t.after = t.before.selectMapView)
  | given {c : FeatureCollection α} {provenance : Provenance} {title description : String} {v : Viewport α}
      (given : t.action.given? = some (c, provenance))
      (after : t.after =
        { { t.before.handle .cancel with
            session := t.before.session.select c provenance title description }.showWorking with viewport := v })

/-- There is no other way to make a record. -/
theorem making {t : Turn α} (h : t.makes) : t.Making := by
  cases t.course with
  | drawn action reply tool wide valid after => exact .drawn action reply tool wide valid after
  | viewSelected action _ after => exact .viewSelected action after
  | selected action =>
    obtain ⟨⟨c, provenance⟩, hgiven⟩ := Action.given_of_selects action
    obtain ⟨title, description, v, hafter⟩ := after_of_given hgiven
    exact .given hgiven hafter
  | declined declines => cases (renews_of_declines declines).symm.trans (renews_of_makes h)
  | looked action => cases (renews_of_looks action).symm.trans (renews_of_makes h)
  | cancelled action => obtain ⟨action, -⟩ | ⟨action, -⟩ := action <;> simp [makes, action] at h
  | chosen action reply | began action reply | crossed action reply | picked action reply | moved action reply
  | offLayer action reply | unselected action reply | edited action reply | rejected action reply
  | previewed action reply | closed action reply | reverted action reply => simp [makes, action, reply] at h
  | buffered action reply => obtain action | action := action <;> simp [makes, action, reply] at h

/-- A turn that makes a record leaves one that is as reverting would have it. -/
theorem reverted_of_makes {t : Turn α} (h : t.makes) :
    ∃ r, t.after.session.record = some r ∧ r.reverted = r := by
  cases making h with
  | drawn _ _ _ _ _ after | viewSelected _ after | given _ after =>
    rw [after]
    exact Session.reverted_select ..

end Turn

namespace Editor

variable {settings : EditorSettings α} {ops : PlanarOps α} {e : Editor α}

/-- From the turn on that made a record, reverting goes back to that record, while it is neither dropped nor
replaced. -/
theorem Reached.reverted_eq {later earlier : History α} {t : Turn α} {r : SelectionRecord α}
    (hr : Reached settings ops (later ++ t :: earlier) e) (made : t.after.session.record = some r)
    (reverted : r.reverted = r) (kept : ∀ u ∈ later, u.makes = false ∧ u.clears = false) :
    (∀ u ∈ later, u.after.session.record.map SelectionRecord.reverted = some r) ∧
      e.session.record.map SelectionRecord.reverted = some r := by
  generalize hhistory : later ++ t :: earlier = history at hr
  induction hr generalizing later with
  | new => cases later <;> cases hhistory
  | view _ _ ih => exact ih kept hhistory
  | @act history e a _ ih =>
    cases later with
    | nil =>
      cases hhistory
      exact ⟨by simp, by rw [← reverted]; exact congrArg (Option.map _) made⟩
    | cons u later =>
      cases hhistory
      obtain ⟨⟨hmakes, hclears⟩, hlater⟩ := List.forall_mem_cons.mp kept
      obtain ⟨hall, hbefore⟩ := ih hlater rfl
      have hafter := (Turn.reverted_of_kept hmakes hclears).trans hbefore
      exact ⟨List.forall_mem_cons.mpr ⟨hafter, hall⟩, hafter⟩

omit [Surface α] in
/-- Of a record that reverting brings back to another one, the initial collection is that of the other. -/
theorem initial_of_reverted {e : Editor α} {r : SelectionRecord α}
    (h : e.session.record.map SelectionRecord.reverted = some r) :
    e.session.record.map (·.initial) = some r.initial := by
  obtain ⟨r', hrecord, rfl⟩ := Option.map_eq_some_iff.mp h
  rw [hrecord]
  rfl

/-- After whatever was done to a record that is neither dropped nor replaced, its initial collection is the one that it
was made of, and reverting succeeds: it brings the very record back that was made, puts it on the map, drops the buffer
preview and the mark of an invalid drawing, and enables the next step just when the initial collection is acceptable. -/
theorem Reached.revert_exact {later earlier : History α} {t : Turn α}
    (hr : Reached settings ops (later ++ t :: earlier) e) (made : t.makes)
    (kept : ∀ u ∈ later, u.makes = false ∧ u.clears = false) :
    ∃ r, t.after.session.record = some r ∧
      (∀ u ∈ later, u.after.session.record.map (·.initial) = some r.initial) ∧
      e.session.record.map (·.initial) = some r.initial ∧
      ∃ e', e.revert = (e', .ok ()) ∧ e'.session.record = some r ∧ e'.layer = r.initial.toProjected ∧
        e'.preview = none ∧ e'.pendingBuffer = 0.0 ∧ e'.draw.invalidDraw = false ∧
        e'.nextEnabled = Session.isAcceptable r.initial settings.maxArea := by
  obtain ⟨r, hmade, hreverted⟩ := Turn.reverted_of_makes made
  obtain ⟨hall, hrecord⟩ := hr.reverted_eq hmade hreverted kept
  refine ⟨r, hmade, fun u hu => initial_of_reverted (hall u hu), initial_of_reverted hrecord, ?_⟩
  obtain ⟨r', hr', rfl⟩ := Option.map_eq_some_iff.mp hrecord
  have hrevert := revert_eq_ok_iff.mpr ⟨_, _, Session.revert_eq_ok_iff.mpr ⟨r', hr', rfl, rfl⟩, rfl⟩
  refine ⟨_, hrevert, rfl, rfl, rfl, rfl, rfl, ?_⟩
  exact congrArg (Session.isAcceptable r'.initial) hr.sameRules.maxArea

/-- A corner of a drawn box is dragged and let go, a preview of a buffer is committed, another buffer is refused for its
distance, and a drawing crosses itself. -/
def workedOver : List (Action Rat) :=
  [.pointerDown (FlatWorld.start.viewport.pixelOf ⟨0, 0⟩),
    .pointerDrag (FlatWorld.start.viewport.pixelOf ⟨-100000000, -100000000⟩), .pointerUp, .previewBuffer 1000,
    .commitBuffer, .applyBuffer 20000, .selectTool .selectFree, .drawEnd FlatWorld.bowtie]

/-- The record is another one by then, and reverting brings the box back as it was drawn. -/
theorem revert_exact_workedOver :
    let drawn := FlatWorld.start.run FlatWorld.boxDrawn
    let e := drawn.run workedOver
    e.session.record.any (·.isModified) ∧ e.draw.invalidDraw ∧
      ∃ r e', drawn.session.record = some r ∧ e.revert = (e', .ok ()) ∧ e'.session.record = some r ∧
        e'.layer = r.initial.toProjected ∧ e'.draw.invalidDraw = false := by
  intro drawn e
  refine ⟨by decide +kernel, by decide +kernel, ?_⟩
  have hr := ((Reached.new FlatWorld.new?_eq_start).run FlatWorld.boxDrawn).run workedOver
  rw [turns_eq_append] at hr
  have hkept : (drawn.turns workedOver []).all fun u => !u.makes && !u.clears := by decide +kernel
  obtain ⟨r, hmade, -, -, e', hrevert, hrecord, hlayer, -, -, hvalid, -⟩ := hr.revert_exact (by decide +kernel)
    fun u hu => by simpa using List.all_eq_true.mp hkept u hu
  exact ⟨r, e', hmade, hrevert, hrecord, hlayer, hvalid⟩

end Editor

end AreaOfInterest
