import AreaOfInterest.Proofs.FlatWorld
import AreaOfInterest.Proofs.Sessions

/-!
# Buffers are computed from the base

In every editor that comes about by use, the working shape of the record is its base, or its base buffered by
the distance that the record names. The base is the latest vertex edit, or the initial shape when there was none
since. So buffers do not add up: of several in a row only the last one counts.

A buffer preview is the same computation ahead of time. As long as one is shown it can be committed, and
committing it makes the shape that is shown the working one.
-/

namespace AreaOfInterest

variable {α : Type} [Scalar α]

/-- The working shape of a record is its base, or its base buffered by the distance of the record. -/
inductive Session.Coherent (s : Session α) (r : SelectionRecord α) : Prop where
  | plain (working : r.working = r.base) (buffer : r.buffer = 0.0)
  | buffered (working : s.ops.bufferFeatures r.base r.buffer true = .ok r.working)
      (admitted : s.admitsBuffer r.buffer)

variable [Surface α]

/-- What is kept of a record: its shapes belong together, and its base is the latest vertex edit, if any. -/
def Editor.Grounded (e : Editor α) (edit : Option (FeatureCollection α)) : Prop :=
  ∀ r, e.session.record = some r → e.session.Coherent r ∧ r.base = edit.getD r.initial

/-- A turn keeps the shapes of the record together. -/
theorem Turn.grounded (t : Turn α) {earlier : History α} (h : t.before.Grounded (latestEdit? earlier)) :
    t.after.Grounded (latestEdit? (t :: earlier)) := by
  intro r hr
  cases t.effect with
  | kept session _ _ renews edit | closed session _ renews edit | previewed session _ _ renews edit =>
    rw [session] at hr ⊢
    simpa [latestEdit?, renews, edit] using h r hr
  | cleared session =>
    rw [session] at hr
    cases hr
  | selected session _ renews =>
    rw [session] at hr
    cases hr
    exact ⟨.plain rfl rfl, by simp [latestEdit?, renews, SelectionRecord.new]⟩
  | edited session _ renews edit =>
    obtain ⟨r₀, -, hs⟩ := Session.commitEdit_eq_ok_iff.mp session
    rw [hs] at hr
    cases hr
    exact ⟨.plain rfl rfl, by simp [latestEdit?, renews, edit]⟩
  | buffered session _ renews edit =>
    obtain ⟨r₀, hr₀, hc, hs⟩ := Session.applyBuffer_eq_ok_iff.mp session
    obtain ⟨hadmitted, r₁, hr₁, hbuffer⟩ := Session.previewBuffer_eq_ok_iff.mp hc
    rw [hs] at hr ⊢
    cases hr
    cases hr₀.symm.trans hr₁
    exact ⟨.buffered hbuffer hadmitted, by simpa [latestEdit?, renews, edit] using (h r₀ hr₀).2⟩
  | reverted session _ renews =>
    obtain ⟨r₀, -, -, hs⟩ := Session.revert_eq_ok_iff.mp session
    rw [hs] at hr
    cases hr
    exact ⟨.plain rfl rfl, by simp [latestEdit?, renews]⟩

namespace Editor

variable {settings : EditorSettings α} {ops : PlanarOps α} {history : History α} {e e' : Editor α}

/-- The shapes of the record belong together in every reached editor. -/
theorem Reached.grounded (hr : Reached settings ops history e) : e.Grounded (latestEdit? history) := by
  induction hr with
  | new hnew =>
    obtain ⟨v, rfl⟩ := new?_eq_some hnew
    intro r hrecord
    cases hrecord
  | @act _ e a _ ih => exact Turn.grounded ⟨e, a⟩ ih
  | view _ _ ih => exact ih

/-- After a buffer was applied or refused, another one succeeds just when it would have without the first, and leaves
what it would have left. -/
theorem applyBuffer_applyBuffer (first distance : α) :
    (e.applyBuffer first).1.applyBuffer distance = (e', .ok ()) ↔ e.applyBuffer distance = (e', .ok ()) := by
  rcases hfirst : e.applyBuffer first with ⟨e₁, failure | _⟩
  · obtain ⟨-, rfl⟩ := applyBuffer_eq_error_iff.mp hfirst
    rfl
  · obtain ⟨session, c, hsession, rfl⟩ := applyBuffer_eq_ok_iff.mp hfirst
    obtain ⟨r, hrecord, -, rfl⟩ := Session.applyBuffer_eq_ok_iff.mp hsession
    have hpreview : { e.session with record := some { r with working := c, buffer := first } }.previewBuffer distance =
        e.session.previewBuffer distance := by
      simp [Session.previewBuffer, Session.admitsBuffer, hrecord]
    simp only [applyBuffer, Session.applyBuffer, showWorking, refreshed, withoutPreview, hpreview, hrecord]
    cases e.session.previewBuffer distance with
    | error failure => simp
    | ok c' => rfl

/-- Of several buffers in a row only the last one counts. -/
theorem run_applyBuffer (distances : List α) (distance : α) :
    (e.run (distances.map .applyBuffer)).applyBuffer distance = (e', .ok ()) ↔
      e.applyBuffer distance = (e', .ok ()) := by
  induction distances generalizing e with
  | nil => rfl
  | cons first rest ih => exact (ih (e := (e.applyBuffer first).1)).trans (applyBuffer_applyBuffer first distance)

/-- The working shape of a reached record is its base, or its base buffered by its distance; the base is the
latest vertex edit or the initial shape; and of several buffers in a row only the last one counts. -/
theorem Reached.buffers_from_base (hr : Reached settings ops history e) :
    (∀ r, e.session.record = some r →
      ((r.working = r.base ∧ r.buffer = 0.0) ∨
        (ops.bufferFeatures r.base r.buffer true = .ok r.working ∧ 0.0 ≤ r.buffer ∧
          r.buffer ≤ settings.maxBuffer)) ∧
      r.base = (latestEdit? history).getD r.initial) ∧
    ∀ (distances : List α) (distance : α) (e' : Editor α),
      (e.run (distances.map .applyBuffer)).applyBuffer distance = (e', .ok ()) ↔
        e.applyBuffer distance = (e', .ok ()) := by
  refine ⟨fun r hrecord => ?_, fun distances distance _ => run_applyBuffer distances distance⟩
  obtain ⟨hcoherent, hbase⟩ := hr.grounded r hrecord
  refine ⟨?_, hbase⟩
  cases hcoherent with
  | plain working buffer => exact .inl ⟨working, buffer⟩
  | buffered working admitted =>
    rw [hr.sameRules.ops] at working
    rw [Session.admitsBuffer_iff, hr.sameRules.maxBuffer] at admitted
    exact .inr ⟨working, admitted⟩

/-- The selected view is buffered twice: the shape at the end is the view buffered by the second distance. -/
theorem buffers_from_base_of_view :
    ∃ r, (FlatWorld.start.run [.selectMapView, .applyBuffer 1000.0, .applyBuffer 2000.0]).session.record = some r ∧
      r.base = r.initial ∧ FlatWorld.planarOps.bufferFeatures r.initial 2000.0 true = .ok r.working := by
  let actions : List (Action Rat) := [.selectMapView, .applyBuffer 1000.0, .applyBuffer 2000.0]
  have hr := (Reached.new FlatWorld.new?_eq_start).run actions
  have hselected : (FlatWorld.start.run actions).session.record.isSome := by decide +kernel
  obtain ⟨r, hrecord⟩ := Option.isSome_iff_exists.mp hselected
  have hbuffer : r.buffer = 2000.0 := by
    have h : (FlatWorld.start.run actions).session.record.all (fun r => r.buffer = 2000.0) := by decide +kernel
    simpa [hrecord] using h
  have hunedited : latestEdit? (FlatWorld.start.turns actions []) = none :=
    Option.isNone_iff_eq_none.mp (by decide +kernel)
  obtain ⟨hworking, hbase⟩ := hr.buffers_from_base.1 r hrecord
  rw [hunedited] at hbase
  obtain ⟨-, hzero⟩ | ⟨hworking, -, -⟩ := hworking
  · rw [hbuffer] at hzero
    exact absurd hzero (by decide +kernel)
  · rw [hbuffer, hbase] at hworking
    exact ⟨r, hrecord, hbase, hworking⟩

/-- What is kept of a preview: it is what the pending distance gives now, and without one no distance is pending. -/
structure Previewed (e : Editor α) : Prop where
  shown : ∀ p, e.preview = some p → e.session.previewBuffer e.pendingBuffer = .ok p
  absent : e.preview = none → e.pendingBuffer = 0.0

omit [Surface α] in
/-- Where nothing is previewed, nothing can be stale. -/
theorem Bare.previewed (h : e.Bare) : e.Previewed where
  shown p hp := by
    rw [h.preview] at hp
    cases hp
  absent _ := h.pendingBuffer

end Editor

/-- A turn that replaces the base drops the preview, and every other one keeps it up to date. -/
theorem Turn.previewed (t : Turn α) (h : t.before.Previewed) : t.after.Previewed := by
  cases t.effect with
  | kept session preview pendingBuffer =>
    exact ⟨by simpa only [session, preview, pendingBuffer] using h.shown,
      by simpa only [preview, pendingBuffer] using h.absent⟩
  | previewed session preview computed =>
    refine ⟨fun p hp => ?_, fun hp => ?_⟩
    · rw [preview] at hp
      cases hp
      rw [session]
      exact computed
    · rw [preview] at hp
      cases hp
  | closed _ bare | cleared _ bare | selected _ bare | edited _ bare | buffered _ bare | reverted _ bare =>
    exact bare.previewed

namespace Editor

variable {settings : EditorSettings α} {ops : PlanarOps α} {history : History α} {e e' : Editor α}

/-- The preview of a reached editor is up to date. -/
theorem Reached.previewed (hr : Reached settings ops history e) : e.Previewed := by
  induction hr with
  | new hnew =>
    obtain ⟨v, rfl⟩ := new?_eq_some hnew
    exact Bare.previewed ⟨rfl, rfl⟩
  | @act _ e a _ ih => exact Turn.previewed ⟨e, a⟩ ih
  | view _ _ ih => exact ⟨ih.shown, ih.absent⟩

/-- A preview that is up to date can be committed, and then is the working shape of the record. -/
theorem Previewed.commitBuffer {p : FeatureCollection α} (h : e.Previewed) (hp : e.preview = some p) :
    ∃ e' r, e.commitBuffer = (e', .ok ()) ∧ e.session.record = some r ∧ e'.working = some p ∧
      e'.session.record = some { r with working := p, buffer := e.pendingBuffer } := by
  have hshown := h.shown p hp
  obtain ⟨-, r, hrecord, -⟩ := Session.previewBuffer_eq_ok_iff.mp hshown
  have happly := applyBuffer_eq_ok_iff.mpr ⟨_, p, Session.applyBuffer_eq_ok_iff.mpr ⟨r, hrecord, hshown, rfl⟩, rfl⟩
  exact ⟨_, r, commitBuffer_eq_ok_iff.mpr ⟨by simp [hp], happly⟩, hrecord, rfl, rfl⟩

/-- The preview that is shown is what the pending distance gives, and committing it succeeds, makes exactly it
the working shape and records its distance. Where nothing is shown no distance is pending. -/
theorem Reached.preview_is_committed (hr : Reached settings ops history e) :
    (∀ p, e.preview = some p →
      e.session.previewBuffer e.pendingBuffer = .ok p ∧
      ∃ e' r, e.commitBuffer = (e', .ok ()) ∧ e.session.record = some r ∧ e'.working = some p ∧
        e'.session.record = some { r with working := p, buffer := e.pendingBuffer }) ∧
    (e.preview = none → e.pendingBuffer = 0.0) :=
  ⟨fun p hp => ⟨hr.previewed.shown p hp, hr.previewed.commitBuffer hp⟩, hr.previewed.absent⟩

/-- The selected view is shown buffered: committing makes what is shown the working shape. -/
theorem preview_of_view_is_committed :
    ∃ p e', (FlatWorld.start.run [.selectMapView, .previewBuffer 1000.0]).preview = some p ∧
      (FlatWorld.start.run [.selectMapView, .previewBuffer 1000.0]).commitBuffer = (e', .ok ()) ∧
      e'.working = some p := by
  have hr := (Reached.new FlatWorld.new?_eq_start).run [.selectMapView, .previewBuffer 1000.0]
  have hshown : (FlatWorld.start.run [.selectMapView, .previewBuffer 1000.0]).preview.isSome := by decide +kernel
  obtain ⟨p, hp⟩ := Option.isSome_iff_exists.mp hshown
  obtain ⟨-, e', r, hcommit, -, hworking, -⟩ := hr.preview_is_committed.1 p hp
  exact ⟨p, e', hp, hcommit, hworking⟩

end Editor

end AreaOfInterest
