import AreaOfInterest.Proofs.Effects

/-!
# The rules of a session

The planar operations and the limits of a session are the rules by which its selections are judged. What an editor is
made with stays that way: no turn changes any of them.
-/

namespace AreaOfInterest

variable {α : Type} [Scalar α]

namespace Session

/-- Two sessions judge selections alike. -/
structure SameRules (s s' : Session α) : Prop where
  ops : s'.ops = s.ops
  maxBuffer : s'.maxBuffer = s.maxBuffer
  maxArea : s'.maxArea = s.maxArea

end Session

variable [Surface α]

/-- No turn changes the rules by which selections are judged. -/
theorem Turn.sameRules (t : Turn α) : t.before.session.SameRules t.after.session := by
  cases t.effect with
  | kept session | closed session | previewed session | cleared session | selected session =>
    rw [session]
    exact ⟨rfl, rfl, rfl⟩
  | edited session =>
    obtain ⟨r, -, h⟩ := Session.commitEdit_eq_ok_iff.mp session
    rw [h]
    exact ⟨rfl, rfl, rfl⟩
  | buffered session =>
    obtain ⟨r, -, -, h⟩ := Session.applyBuffer_eq_ok_iff.mp session
    rw [h]
    exact ⟨rfl, rfl, rfl⟩
  | reverted session =>
    obtain ⟨r, -, -, h⟩ := Session.revert_eq_ok_iff.mp session
    rw [h]
    exact ⟨rfl, rfl, rfl⟩

namespace Editor

variable {settings : EditorSettings α} {ops : PlanarOps α} {history : History α} {e : Editor α}

omit [Surface α] in
/-- A new editor has no selection, nothing on the map, and the limits of its settings. -/
theorem new?_eq_some (h : new? settings ops = some e) :
    ∃ v, e = { settings, viewport := v, session := ⟨none, ops, settings.maxBuffer, settings.maxArea⟩, draw := .new,
               layer := [], marker := none, preview := none, pendingBuffer := 0.0, nextEnabled := false } := by
  simp only [new?, Option.bind_eq_bind, Option.bind_eq_some_iff] at h
  obtain ⟨v, -, w, -, h⟩ := h
  exact ⟨_, (Option.some.inj h).symm⟩

/-- The rules of a reached editor are the ones that it was made with. -/
theorem Reached.sameRules (hr : Reached settings ops history e) :
    Session.SameRules ⟨none, ops, settings.maxBuffer, settings.maxArea⟩ e.session := by
  induction hr with
  | new hnew =>
    obtain ⟨v, rfl⟩ := new?_eq_some hnew
    exact ⟨rfl, rfl, rfl⟩
  | @act _ e a _ ih =>
    have h := Turn.sameRules ⟨e, a⟩
    exact ⟨h.ops.trans ih.ops, h.maxBuffer.trans ih.maxBuffer, h.maxArea.trans ih.maxArea⟩
  | view _ _ ih => exact ih

end Editor

end AreaOfInterest
