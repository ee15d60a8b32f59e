import AreaOfInterest.Proofs.Turns

/-!
# What a turn does to the selection

All actions together change the selection in a handful of ways: the record is dropped, made anew, edited,
buffered or reverted. Each of them also drops the buffer preview. Every other turn leaves the record alone, and
then the preview stays, is dropped or is computed from the record that is there.

The same list says which turns count for the shape that buffers are computed from.
-/

namespace AreaOfInterest

variable {α : Type} [Scalar α] [Surface α]

namespace Turn

/-- Whether a turn makes a new record or reverts the one there is. -/
def renews (t : Turn α) : Bool :=
  match t.action, t.reply with
  | .drawEnd _, .drawn (.committed ..) => true
  | .selectMapView, .selected _ => true
  | .applyPlace _, .done | .importFeatures .., .done | .revert, .done => true
  | _, _ => false

/-- Whether a turn drops the selection. -/
def clears (t : Turn α) : Bool :=
  match t.action with
  | .cancel | .selectTool .cancel => true
  | _ => false

/-- The collection of the vertex edit that a turn committed. -/
def edit? (t : Turn α) : Option (FeatureCollection α) :=
  match t.reply with
  | .dragged (.committed c) => some c
  | _ => none

end Turn

/-- The latest committed vertex edit since a record was made or reverted. -/
def latestEdit? : History α → Option (FeatureCollection α)
  | [] => none
  | t :: earlier => if t.renews then none else t.edit?.or (latestEdit? earlier)

/-- Nothing is previewed, and no distance is pending. -/
structure Editor.Bare (e : Editor α) : Prop where
  preview : e.preview = none
  pendingBuffer : e.pendingBuffer = 0.0

/-- The ways in which a turn changes the selection and its preview. -/
inductive Turn.Effect (t : Turn α) : Prop where
  | kept (session : t.after.session = t.before.session) (preview : t.after.preview = t.before.preview)
      (pendingBuffer : t.after.pendingBuffer = t.before.pendingBuffer) (renews : t.renews = false)
      (edit : t.edit? = none)
  | closed (session : t.after.session = t.before.session) (bare : t.after.Bare) (renews : t.renews = false)
      (edit : t.edit? = none)
  | previewed {c : FeatureCollection α} (session : t.after.session = t.before.session)
      (preview : t.after.preview = some c)
      (computed : t.before.session.previewBuffer t.after.pendingBuffer = .ok c) (renews : t.renews = false)
      (edit : t.edit? = none)
  | cleared (session : t.after.session = t.before.session.clear) (bare : t.after.Bare)
  | selected {c : FeatureCollection α} {provenance : Provenance} {title description : String}
      (session : t.after.session = t.before.session.select c provenance title description) (bare : t.after.Bare)
      (renews : t.renews = true)
  | edited {c : FeatureCollection α} (session : t.before.session.commitEdit c = (t.after.session, .ok ()))
      (bare : t.after.Bare) (renews : t.renews = false) (edit : t.edit? = some c)
  | buffered {distance : α} {c : FeatureCollection α}
      (session : t.before.session.applyBuffer distance = (t.after.session, .ok c)) (bare : t.after.Bare)
      (renews : t.renews = false) (edit : t.edit? = none)
  | reverted {c : FeatureCollection α} (session : t.before.session.revert = (t.after.session, .ok c))
      (bare : t.after.Bare) (renews : t.renews = true)

namespace Turn

/-- A turn that comes to nothing makes no record. -/
theorem renews_of_declines {t : Turn α} (h : t.declines) : t.renews = false := by
  unfold renews
  split <;> simp_all [declines]

/-- A turn that comes to nothing commits no edit. -/
theorem edit?_of_declines {t : Turn α} (h : t.declines) : t.edit? = none := by
  unfold edit?
  split
  · next c hreply =>
    by_cases hup : t.action = .pointerUp
    · have hnothing : t.before.draw.drag = none := by simpa [declines, hup, hreply] using h
      have hidle : t.reply = .dragged .idle := by
        simp [reply, hup, Editor.step, Editor.pointerUp, hnothing]
      cases hreply.symm.trans hidle
    · simp [declines, hreply] at h
  · rfl

/-- A turn that comes to nothing drops no selection. -/
theorem clears_of_declines {t : Turn α} (h : t.declines) : t.clears = false := by
  unfold clears
  split
  · next haction =>
    have hreply : t.reply = .done := by simp [reply, haction, Editor.step]
    simp [declines, haction, hreply] at h
  · next haction =>
    have hreply : t.reply = .mode (t.before.selectTool .cancel).draw.mode := by simp [reply, haction, Editor.step]
    simp [declines, haction, hreply] at h
  · rfl

/-- A turn that commits an edit lets go of a valid shape, and selects the layer with it. -/
theorem edited_of_edit? {t : Turn α} {c : FeatureCollection α} (h : t.edit? = some c) :
    ∃ drag shape session, t.before.draw.drag = some drag ∧ t.before.layer[drag.feature]? = some shape ∧
      c = Editor.geographic (t.before.released drag shape).layer ∧ t.before.session.commitEdit c = (session, .ok ()) ∧
      t.after = t.before.edited drag shape session := by
  have hreply : t.reply = .dragged (.committed c) := by
    unfold edit? at h
    split at h
    · next hreply => rw [hreply, Option.some.inj h]
    · cases h
  cases t.course with
  | edited _ reply dragged there _ committed after =>
    cases hreply.symm.trans reply
    exact ⟨_, _, _, dragged, there, rfl, committed, after⟩
  | declined declines => cases h.symm.trans (edit?_of_declines declines)
  | looked _ reply => obtain reply | ⟨highlight, reply⟩ := reply <;> cases hreply.symm.trans reply
  | cancelled action => obtain ⟨-, reply⟩ | ⟨-, reply⟩ := action <;> cases hreply.symm.trans reply
  | chosen _ reply | began _ reply | crossed _ reply | drawn _ reply | picked _ reply | moved _ reply
  | offLayer _ reply | unselected _ reply | rejected _ reply | viewSelected _ reply | selected _ reply
  | previewed _ reply | closed _ reply | buffered _ reply | reverted _ reply => cases hreply.symm.trans reply

/-- Looking at the map makes no record. -/
theorem renews_of_looks {t : Turn α} (h : t.action.looks) : t.renews = false := by
  unfold renews
  split <;> simp_all [Action.looks]

/-- Selecting what was found or imported makes a record. -/
theorem renews_of_selects {t : Turn α} (h : t.action.selects) (reply : t.reply = .done) : t.renews = true := by
  unfold renews
  cases haction : t.action <;> simp_all [Action.selects]

/-- A turn after which session and preview are the same. -/
theorem effect_of_kept {t : Turn α} {e : Editor α} (after : t.after = e) (session : e.session = t.before.session)
    (preview : e.preview = t.before.preview) (pendingBuffer : e.pendingBuffer = t.before.pendingBuffer)
    (renews : t.renews = false) (edit : t.edit? = none) : t.Effect := by
  subst after
  exact .kept session preview pendingBuffer renews edit

/-- A turn that makes a record. -/
theorem effect_of_selected {t : Turn α} {e : Editor α} {c : FeatureCollection α} {provenance : Provenance}
    {title description : String} (after : t.after = e)
    (session : e.session = t.before.session.select c provenance title description) (bare : e.Bare)
    (renews : t.renews = true) : t.Effect := by
  subst after
  exact .selected session bare renews

/-- Every turn changes the selection and its preview in one of the ways listed. -/
theorem effect (t : Turn α) : t.Effect := by
  cases t.course with
  | declined declines after =>
    exact effect_of_kept after rfl rfl rfl (renews_of_declines declines) (edit?_of_declines declines)
  | looked action reply after =>
    refine effect_of_kept after rfl rfl rfl (renews_of_looks action) ?_
    obtain reply | ⟨highlight, reply⟩ := reply <;> simp [edit?, reply]
  | chosen action reply _ after | began action reply _ after | crossed action reply _ after
  | picked action reply _ _ after | moved action reply _ _ _ _ after | offLayer action reply _ _ after
  | unselected action reply _ _ _ after | rejected action reply _ _ _ after =>
    exact effect_of_kept after rfl rfl rfl (by simp [renews, action, reply]) (by simp [edit?, reply])
  | cancelled _ after => exact .cleared (by rw [after]; rfl) (by rw [after]; exact ⟨rfl, rfl⟩)
  | drawn action reply _ _ _ after | viewSelected action reply after =>
    exact effect_of_selected after rfl ⟨rfl, rfl⟩ (by simp [renews, action, reply])
  | selected action reply after => exact effect_of_selected after rfl ⟨rfl, rfl⟩ (renews_of_selects action reply)
  | edited action reply _ _ _ committed after =>
    exact .edited (by rw [after]; exact committed) (by rw [after]; exact ⟨rfl, rfl⟩) (by simp [renews, action])
      (by simp [edit?, reply])
  | previewed action reply computed after =>
    exact .previewed (by rw [after]) (by rw [after]) (by rw [after]; exact computed) (by simp [renews, action])
      (by simp [edit?, reply])
  | closed action reply after =>
    exact .closed (by rw [after]; rfl) (by rw [after]; exact ⟨rfl, rfl⟩) (by simp [renews, action])
      (by simp [edit?, reply])
  | buffered action reply applied after =>
    exact .buffered (by rw [after]; exact applied) (by rw [after]; exact ⟨rfl, rfl⟩)
      (by obtain action | action := action <;> simp [renews, action]) (by simp [edit?, reply])
  | reverted action reply reverted after =>
    exact .reverted (by rw [after]; exact reverted) (by rw [after]; exact ⟨rfl, rfl⟩) (by simp [renews, action, reply])

end Turn

end AreaOfInterest
