import AreaOfInterest.Editor

/-!
# Operations that may be refused

An operation that may be refused answers with what it leaves and with its result. For each of them it is said when it
succeeds and what it leaves then, and when it is refused. Every refusal leaves what was there: the session first, and
from that the editor around it.
-/

namespace AreaOfInterest

variable {α : Type} [Scalar α]

namespace Session

variable {s s' : Session α} {c : FeatureCollection α} {distance : α} {failure : Failure α}

/-- A distance is admitted when it lies between nothing and the largest buffer. -/
theorem admitsBuffer_iff : s.admitsBuffer distance ↔ 0.0 ≤ distance ∧ distance ≤ s.maxBuffer := by
  simp [admitsBuffer]

/-- A preview is computed from the base of the record, for an admitted distance. -/
theorem previewBuffer_eq_ok_iff :
    s.previewBuffer distance = .ok c ↔
      s.admitsBuffer distance ∧ ∃ r, s.record = some r ∧ s.ops.bufferFeatures r.base distance true = .ok c := by
  unfold previewBuffer
  by_cases hadmitted : s.admitsBuffer distance
  · cases hrecord : s.record with
    | none => simp [hadmitted]
    | some r => simp [hadmitted]
  · simp [hadmitted]

/-- A distance that is not admitted is refused, whatever is selected. -/
theorem previewBuffer_of_not_admits (h : ¬(0.0 ≤ distance ∧ distance ≤ s.maxBuffer)) :
    s.previewBuffer distance = .error (.bufferOutOfRange distance s.maxBuffer) := by
  rw [← admitsBuffer_iff] at h
  rw [previewBuffer, if_neg h]

/-- An applied buffer is the preview, put in the place of the working shape. -/
theorem applyBuffer_eq_ok_iff :
    s.applyBuffer distance = (s', .ok c) ↔
      ∃ r, s.record = some r ∧ s.previewBuffer distance = .ok c ∧
        s' = { s with record := some { r with working := c, buffer := distance } } := by
  unfold applyBuffer
  cases s.previewBuffer distance with
  | error failure => simp
  | ok c' =>
    cases s.record with
    | none => simp
    | some r =>
      simp only [Prod.mk.injEq, Except.ok.injEq, Option.some.injEq, exists_eq_left']
      constructor
      · rintro ⟨rfl, rfl⟩
        exact ⟨rfl, rfl⟩
      · rintro ⟨rfl, rfl⟩
        exact ⟨rfl, rfl⟩

/-- A buffer is refused as its preview is, and leaves the session as it was. -/
theorem applyBuffer_eq_error_iff :
    s.applyBuffer distance = (s', .error failure) ↔ s.previewBuffer distance = .error failure ∧ s' = s := by
  unfold applyBuffer
  cases hpreview : s.previewBuffer distance with
  | error failure' => simp [and_comm, eq_comm]
  | ok c =>
    obtain ⟨-, r, hrecord, -⟩ := previewBuffer_eq_ok_iff.mp hpreview
    simp [hrecord]

/-- A buffer has the result that its preview has. -/
theorem applyBuffer_snd : (s.applyBuffer distance).2 = s.previewBuffer distance := by
  rcases happly : s.applyBuffer distance with ⟨s', failure | c⟩
  · exact (applyBuffer_eq_error_iff.mp happly).1.symm
  · obtain ⟨r, -, hpreview, -⟩ := applyBuffer_eq_ok_iff.mp happly
    exact hpreview.symm

/-- A committed edit takes the place of the base and of the working shape. -/
theorem commitEdit_eq_ok_iff :
    s.commitEdit c = (s', .ok ()) ↔
      ∃ r, s.record = some r ∧ s' = { s with record := some { r with base := c, working := c, buffer := 0.0 } } := by
  unfold commitEdit
  cases s.record with
  | none => simp
  | some r => simp [eq_comm]

/-- An edit is refused for want of a selection, and leaves the session as it was. -/
theorem commitEdit_eq_error_iff :
    s.commitEdit c = (s', .error failure) ↔ s.record = none ∧ failure = .noSelection ∧ s' = s := by
  unfold commitEdit
  cases s.record with
  | none => simp [eq_comm, and_comm]
  | some r => simp

/-- Reverting puts the initial shape back into the place of the other two. -/
theorem revert_eq_ok_iff :
    s.revert = (s', .ok c) ↔
      ∃ r, s.record = some r ∧ r.initial = c ∧
        s' = { s with record := some { r with working := r.initial, base := r.initial, buffer := 0.0 } } := by
  unfold revert
  cases s.record with
  | none => simp
  | some r => simp [eq_comm, and_comm]

/-- Reverting is refused for want of a selection, and leaves the session as it was. -/
theorem revert_eq_error_iff :
    s.revert = (s', .error failure) ↔ s.record = none ∧ failure = .noSelection ∧ s' = s := by
  unfold revert
  cases s.record with
  | none => simp [eq_comm, and_comm]
  | some r => simp

end Session

variable [Surface α]

namespace Editor

variable {e e' : Editor α} {c : FeatureCollection α} {distance : α} {failure : Failure α}

omit [Surface α] in
/-- A preview is the one of the session, and is shown with its distance pending. -/
theorem previewBuffer_eq_ok_iff :
    e.previewBuffer distance = (e', .ok c) ↔
      e.session.previewBuffer distance = .ok c ∧ e' = { e with preview := some c, pendingBuffer := distance } := by
  unfold previewBuffer
  cases e.session.previewBuffer distance with
  | error failure => simp
  | ok c' =>
    simp only [Prod.mk.injEq, Except.ok.injEq]
    constructor
    · rintro ⟨rfl, rfl⟩
      exact ⟨rfl, rfl⟩
    · rintro ⟨rfl, rfl⟩
      exact ⟨rfl, rfl⟩

omit [Surface α] in
/-- A preview is refused as the session refuses it, and leaves the editor as it was. -/
theorem previewBuffer_eq_error_iff :
    e.previewBuffer distance = (e', .error failure) ↔ e.session.previewBuffer distance = .error failure ∧ e' = e := by
  unfold previewBuffer
  cases e.session.previewBuffer distance with
  | error failure' => simp [and_comm, eq_comm]
  | ok c => simp

/-- An applied buffer is one of the session, with the working selection put on the map. -/
theorem applyBuffer_eq_ok_iff :
    e.applyBuffer distance = (e', .ok ()) ↔
      ∃ session c, e.session.applyBuffer distance = (session, .ok c) ∧ e' = { e with session }.showWorking := by
  unfold applyBuffer
  split
  · next session failure' h => simp [h]
  · next session c h => simp [h, eq_comm]

/-- A buffer is refused as its preview is, and leaves the editor as it was. -/
theorem applyBuffer_eq_error_iff :
    e.applyBuffer distance = (e', .error failure) ↔ e.session.previewBuffer distance = .error failure ∧ e' = e := by
  unfold applyBuffer
  split
  · next session failure' h =>
    obtain ⟨hpreview, rfl⟩ := Session.applyBuffer_eq_error_iff.mp h
    change (e, Except.error failure') = (e', Except.error failure) ↔ _
    simp [hpreview, and_comm, eq_comm]
  · next session c h =>
    obtain ⟨-, -, hpreview, -⟩ := Session.applyBuffer_eq_ok_iff.mp h
    simp [hpreview]

/-- A committed preview is the buffer by the pending distance. -/
theorem commitBuffer_eq_ok_iff :
    e.commitBuffer = (e', .ok ()) ↔ e.preview.isSome ∧ e.applyBuffer e.pendingBuffer = (e', .ok ()) := by
  unfold commitBuffer
  cases e.preview <;> simp

/-- Without a preview there is nothing to commit, and with one its buffer may be refused. Either way the editor stays
as it was. -/
theorem commitBuffer_eq_error_iff :
    e.commitBuffer = (e', .error failure) ↔
      (e.preview = none ∧ failure = .noPendingBuffer ∨
        e.preview.isSome ∧ e.session.previewBuffer e.pendingBuffer = .error failure) ∧ e' = e := by
  unfold commitBuffer
  cases e.preview with
  | none => simp [eq_comm, and_comm]
  | some p => simp [applyBuffer_eq_error_iff]

/-- A reverted editor has its session reverted, with the working selection put on the map. -/
theorem revert_eq_ok_iff :
    e.revert = (e', .ok ()) ↔
      ∃ session c, e.session.revert = (session, .ok c) ∧
        e' = { e with session, draw := { e.draw with invalidDraw := false } }.showWorking := by
  unfold revert
  split
  · next session failure' h => simp [h]
  · next session c h => simp [h, eq_comm]

/-- Reverting is refused for want of a selection, and leaves the editor as it was. -/
theorem revert_eq_error_iff :
    e.revert = (e', .error failure) ↔ e.session.record = none ∧ failure = .noSelection ∧ e' = e := by
  unfold revert
  split
  · next session failure' h =>
    obtain ⟨hrecord, rfl, rfl⟩ := Session.revert_eq_error_iff.mp h
    change (e, Except.error Failure.noSelection) = (e', Except.error failure) ↔ _
    simp [hrecord, and_comm, eq_comm]
  · next session c h =>
    obtain ⟨r, hrecord, -⟩ := Session.revert_eq_ok_iff.mp h
    simp [hrecord]

end Editor

end AreaOfInterest
