import AreaOfInterest.Proofs.FlatWorld
import AreaOfInterest.Proofs.Turns

/-!
# Turns that commit nothing

A turn that comes to nothing, for want of a tool, of an area, of a vertex or of a selection, leaves the whole editor
as it was. A drawing that crosses itself stays on the layer and raises its flag, and touches nothing else. A vertex
edit that is refused keeps the selection and whatever is previewed of it.

All of this holds in every editor, whichever way it came about and whatever its planar operations do.
-/

namespace AreaOfInterest

variable {α : Type} [Scalar α] [Surface α]

namespace Turn

/-- A turn that comes to nothing leaves the editor as it was. -/
theorem after_of_declines {t : Turn α} (h : t.declines) : t.after = t.before := by
  cases t.course with
  | declined _ after => exact after
  | looked action reply =>
    obtain reply | ⟨highlight, reply⟩ := reply <;> cases haction : t.action <;>
      simp_all [declines, Action.looks]
  | selected action reply => cases haction : t.action <;> simp_all [declines, Action.selects]
  | cancelled action => obtain ⟨action, reply⟩ | ⟨action, reply⟩ := action <;> simp [declines, action, reply] at h
  | buffered action reply => obtain action | action := action <;> simp [declines, action, reply] at h
  | began action reply tool => simp [declines, action, reply, DrawMode.isDrawing, tool] at h
  | offLayer action reply dragged | unselected action reply dragged | edited action reply dragged
  | rejected action reply dragged => simp [declines, action, reply, dragged] at h
  | chosen action reply | crossed action reply | drawn action reply | picked action reply | moved action reply
  | viewSelected action reply | previewed action reply | closed action reply | reverted action reply =>
    simp [declines, action, reply] at h

end Turn

namespace Editor

/-- Whatever commits nothing keeps what was there: a turn that comes to nothing the whole editor, and so does every
operation that fails; a drawing that crosses itself all but the layer and its flag, and a refused vertex edit the
session and its preview. -/
theorem uncommitted_keeps (e : Editor α) :
    (∀ a, Turn.declines ⟨e, a⟩ → (e.step a).1 = e) ∧
      (∀ distance failure, (e.previewBuffer distance).2 = .error failure → (e.previewBuffer distance).1 = e) ∧
      (∀ distance failure, (e.applyBuffer distance).2 = .error failure → (e.applyBuffer distance).1 = e) ∧
      (∀ failure, e.commitBuffer.2 = .error failure → e.commitBuffer.1 = e) ∧
      (∀ failure, e.revert.2 = .error failure → e.revert.1 = e) ∧
      (∀ ring shape, (e.drawEnd ring).2 = .invalid shape →
        (e.drawEnd ring).1 = { e with layer := [shape], draw := { e.draw with invalidDraw := true } }) ∧
      (e.pointerUp.2 = .invalid →
        e.pointerUp.1.session = e.session ∧ e.pointerUp.1.preview = e.preview ∧
          e.pointerUp.1.pendingBuffer = e.pendingBuffer) := by
  refine ⟨fun a ha => Turn.after_of_declines ha, fun distance failure hfailed => ?_,
    fun distance failure hfailed => ?_, fun failure hfailed => ?_, fun failure hfailed => ?_,
    fun ring shape hinvalid => ?_, fun hinvalid => ?_⟩
  · exact (previewBuffer_eq_error_iff.mp (Prod.ext rfl hfailed)).2
  · exact (applyBuffer_eq_error_iff.mp (Prod.ext rfl hfailed)).2
  · exact (commitBuffer_eq_error_iff.mp (Prod.ext rfl hfailed)).2
  · exact (revert_eq_error_iff.mp (Prod.ext rfl hfailed)).2.2
  · have hend := e.drawEnd_ends ring
    generalize (e.drawEnd ring).1 = e', (e.drawEnd ring).2 = outcome at hend hinvalid
    cases hend with
    | ignored | degenerate | committed => cases hinvalid
    | invalid =>
      cases hinvalid
      rfl
  · have hend := e.pointerUp_ends
    generalize e.pointerUp.1 = e', e.pointerUp.2 = outcome at hend hinvalid
    cases hend with
    | idle | offLayer | committed => cases hinvalid
    | unselected | invalid => exact ⟨rfl, rfl, rfl⟩

/-- The editor on the flat world with its view selected and the freehand tool in use. -/
def sketching : Editor Rat := FlatWorld.start.run [.selectMapView, .selectTool .selectFree]

/-- A ring that crosses itself is refused and takes the layer. A buffer beyond the limit is refused altogether, whether
it is applied or only previewed, and so is committing a preview that there is not. -/
theorem uncommitted_keeps_sketching :
    (∃ shape, (sketching.drawEnd FlatWorld.bowtie).2 = .invalid shape ∧
      (sketching.drawEnd FlatWorld.bowtie).1.layer = [shape] ∧
      (sketching.drawEnd FlatWorld.bowtie).1.session = sketching.session) ∧
      (sketching.step (.applyBuffer 20000)).1 = sketching ∧
      sketching.applyBuffer 20000 = (sketching, .error (.bufferOutOfRange 20000 10000)) ∧
      sketching.previewBuffer 20000 = (sketching, .error (.bufferOutOfRange 20000 10000)) ∧
      sketching.commitBuffer = (sketching, .error .noPendingBuffer) := by
  obtain ⟨hdeclines, hpreview, happly, hcommit, -, hdrawEnd, -⟩ := uncommitted_keeps sketching
  have hlimit : sketching.session.previewBuffer 20000 = .error (.bufferOutOfRange 20000 10000) := by
    have hmax : sketching.session.maxBuffer = 10000 := by decide +kernel
    rw [Session.previewBuffer_of_not_admits (by decide +kernel), hmax]
  refine ⟨?_, hdeclines _ (by decide +kernel), ?_, ?_, ?_⟩
  · have hcrossed : (sketching.drawEnd FlatWorld.bowtie).2 matches .invalid _ := by decide +kernel
    split at hcrossed
    · next shape hshape =>
      rw [hdrawEnd FlatWorld.bowtie shape hshape]
      exact ⟨shape, hshape, rfl, rfl⟩
    · cases hcrossed
  · have hfailed : (sketching.applyBuffer 20000).2 = .error (.bufferOutOfRange 20000 10000) := by
      simp only [applyBuffer, Session.applyBuffer, hlimit]
    exact Prod.ext (happly _ _ hfailed) hfailed
  · have hfailed : (sketching.previewBuffer 20000).2 = .error (.bufferOutOfRange 20000 10000) := by
      simp only [previewBuffer, hlimit]
    exact Prod.ext (hpreview _ _ hfailed) hfailed
  · exact Prod.ext (hcommit _ rfl) rfl

end Editor

end AreaOfInterest
