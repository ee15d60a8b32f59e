import AreaOfInterest.Proofs.FlatWorld
import AreaOfInterest.Proofs.Sessions

/-!
# The signal for the next step

Whether the selection may be used for the next step is remembered, and only looked up again when the selection
changes. So what is remembered could be out of date. It is not: when it says that the next step may be taken, the
selection is there and acceptable now. It is held back only after a shape was refused, which the other signal shows.
-/

namespace AreaOfInterest

variable {α : Type} [Scalar α] [Surface α]

namespace Editor

/-- What is kept of the signal: it promises nothing that does not hold now, and without an invalid drawing it says
exactly what holds. -/
structure Signalled (e : Editor α) : Prop where
  sound : e.nextEnabled → e.session.nextEnabled
  current : e.draw.invalidDraw = false → e.nextEnabled = e.session.nextEnabled

variable {settings : EditorSettings α} {ops : PlanarOps α} {history : History α} {e : Editor α}

/-- A signal that was just looked up is current. -/
theorem signalled_of_refreshed (h : e.nextEnabled = e.session.nextEnabled) : e.Signalled where
  sound hnext := by rw [← h]; exact hnext
  current _ := h

/-- A signal that is held back is sound, and the invalid drawing is shown. -/
theorem signalled_of_withheld (next : e.nextEnabled = false) (invalid : e.draw.invalidDraw = true) : e.Signalled where
  sound hnext := by simp [next] at hnext
  current hvalid := by simp [invalid] at hvalid

/-- The signal stays as good as it was where selection and signal are kept and no invalid drawing is forgotten. -/
theorem Signalled.keep {e' : Editor α} (h : e.Signalled) (session : e'.session = e.session)
    (next : e'.nextEnabled = e.nextEnabled) (invalid : e.draw.invalidDraw = true → e'.draw.invalidDraw = true) :
    e'.Signalled where
  sound hnext := by
    rw [session]
    exact h.sound (by rwa [← next])
  current hvalid := by
    rw [session, next]
    refine h.current ?_
    cases hbefore : e.draw.invalidDraw with
    | false => rfl
    | true => simp [invalid hbefore] at hvalid

end Editor

/-- Every turn that changes the selection or forgets an invalid drawing looks the signal up again. -/
theorem Turn.signalled (t : Turn α) (h : t.before.Signalled) : t.after.Signalled := by
  cases t.course with
  | declined _ after | looked _ _ after | began _ _ _ after | picked _ _ _ _ after | moved _ _ _ _ _ _ after
  | offLayer _ _ _ _ after | unselected _ _ _ _ _ after | previewed _ _ _ after | closed _ _ after =>
    rw [after]
    exact h.keep rfl rfl id
  | chosen _ _ event_ne after =>
    rw [after]
    refine h.keep rfl rfl fun hinvalid => ?_
    simp [Editor.handle, DrawController.handle, DrawController.transition, event_ne, hinvalid]
  | crossed _ _ _ after =>
    rw [after]
    exact h.keep rfl rfl fun _ => rfl
  | rejected _ _ _ _ _ after =>
    rw [after]
    exact Editor.signalled_of_withheld rfl rfl
  | cancelled _ after | drawn _ _ _ _ _ after | edited _ _ _ _ _ _ after | viewSelected _ _ after
  | selected _ _ after | buffered _ _ _ after | reverted _ _ _ after =>
    rw [after]
    exact Editor.signalled_of_refreshed rfl

namespace Editor

variable {settings : EditorSettings α} {ops : PlanarOps α} {history : History α} {e : Editor α}

/-- The signal of a reached editor is sound, and current unless a drawing is invalid. -/
theorem Reached.signalled (hr : Reached settings ops history e) : e.Signalled := by
  induction hr with
  | new hnew =>
    obtain ⟨v, rfl⟩ := new?_eq_some hnew
    exact signalled_of_refreshed rfl
  | @act _ e a _ ih => exact Turn.signalled ⟨e, a⟩ ih
  | view _ _ ih => exact ih.keep rfl rfl id

/-- When the next step is signalled there is a selection that is acceptable within the limit of the settings, and
while no drawing is invalid the next step is signalled exactly when the session admits it. -/
theorem Reached.signals_current (hr : Reached settings ops history e) :
    (e.signals.nextEnabled →
      e.session.nextEnabled ∧ ∃ c, e.working = some c ∧ Session.isAcceptable c settings.maxArea) ∧
      (e.signals.invalidDraw = false → e.signals.nextEnabled = e.session.nextEnabled) := by
  refine ⟨fun hnext => ?_, hr.signalled.current⟩
  have hadmitted := hr.signalled.sound hnext
  obtain ⟨c, hworking, hacceptable⟩ := (Option.any_eq_true _ _).mp hadmitted
  refine ⟨hadmitted, c, hworking, ?_⟩
  rwa [hr.sameRules.maxArea] at hacceptable

/-- The view is selected, and a freehand drawing crosses itself afterwards: the view is still there to be used. -/
theorem signals_current_of_view :
    (FlatWorld.start.run [.selectMapView, .selectTool .selectFree, .drawEnd FlatWorld.bowtie]).signals = ⟨true, true⟩ ∧
      (FlatWorld.start.run [.selectMapView, .selectTool .selectFree, .drawEnd FlatWorld.bowtie]).working.any
        (Session.isAcceptable · none) := by
  have hr := (Reached.new FlatWorld.new?_eq_start).run
    [.selectMapView, .selectTool .selectFree, .drawEnd FlatWorld.bowtie]
  have hsignals : (FlatWorld.start.run [.selectMapView, .selectTool .selectFree, .drawEnd FlatWorld.bowtie]).signals =
      ⟨true, true⟩ := by decide +kernel
  obtain ⟨-, c, hworking, hacceptable⟩ := hr.signals_current.1 (by rw [hsignals])
  exact ⟨hsignals, by rw [hworking]; exact hacceptable⟩

end Editor

end AreaOfInterest
