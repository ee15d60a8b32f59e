import AreaOfInterest.Proofs.FlatWorld
import AreaOfInterest.Proofs.Layers

/-!
# Clicks

The pointer is pressed and let go without being moved. Letting go of a vertex selects the layer, whether the vertex
was moved or not. So a click on a valid shape makes the layer the unbuffered selection, and leaves the record as it
was only where the record is that already.

It is from a committed vertex edit on, for as long as neither the map nor the selection is changed. It is not after
a buffer: the buffered shape becomes the base of the next buffer.
-/

namespace AreaOfInterest

variable {α : Type} [Scalar α]

omit [Scalar α] in
/-- Putting an unbuffered shape into the place of base and working shape changes nothing when it is both already. -/
theorem SelectionRecord.edit_eq_self_iff {r : SelectionRecord α} {c : FeatureCollection α} {zero : α} :
    { r with base := c, working := c, buffer := zero } = r ↔ r.buffer = zero ∧ r.base = r.working ∧ r.working = c := by
  cases r
  simp only [mk.injEq, true_and]
  constructor
  · rintro ⟨rfl, rfl, rfl⟩
    exact ⟨rfl, rfl, rfl⟩
  · rintro ⟨rfl, rfl, rfl⟩
    exact ⟨rfl, rfl, rfl⟩

/-- The latest turn that changed the map or the selection committed a vertex edit. -/
def EditLatest [Surface α] : History α → Prop
  | [] => False
  | t :: earlier =>
    (∃ c, t.edit? = some c) ∨
      t.after.layer = t.before.layer ∧ t.after.session = t.before.session ∧ EditLatest earlier

namespace Editor

variable {e : Editor α}

variable [Surface α]

/-- The pointer is pressed and let go where it is. -/
def click (e : Editor α) (pixel : Coord α) : Editor α × DragOutcome α := (e.pointerDown pixel).1.pointerUp

/-- A click lets go of a valid shape on the layer. -/
def Lets (e : Editor α) (pixel : Coord α) (drag : VertexDrag α) (shape : Shape α) : Prop :=
  e.gripped? pixel = some drag ∧ e.layer[drag.feature]? = some shape ∧
    e.session.ops.isValidFeature (Wrap.unwrapShape shape e.viewport.projection).toFeature

/-- A click that lets go of a valid shape makes the layer the unbuffered selection, and any other keeps the record. -/
theorem record_click {r : SelectionRecord α} (selected : e.session.record = some r) (pixel : Coord α) :
    ((∀ drag shape, ¬ e.Lets pixel drag shape) ∧ (e.click pixel).1.session.record = some r) ∨
      ∃ drag shape, e.Lets pixel drag shape ∧ (e.click pixel).1.session.record =
        some { r with
          base := geographic (e.released drag shape).layer, working := geographic (e.released drag shape).layer
          buffer := 0.0 } := by
  have hend := (e.pointerDown pixel).1.pointerUp_ends
  unfold click
  generalize (e.pointerDown pixel).1.pointerUp.1 = e', (e.pointerDown pixel).1.pointerUp.2 = outcome at hend ⊢
  rw [pointerDown_eq] at hend
  cases hend with
  | idle nothing =>
    refine .inl ⟨fun drag shape hlets => ?_, selected⟩
    cases hlets.1.symm.trans nothing
  | offLayer dragged gone =>
    refine .inl ⟨fun drag shape hlets => ?_, selected⟩
    cases hlets.1.symm.trans dragged
    cases hlets.2.1.symm.trans gone
  | unselected _ _ _ unselected => cases selected.symm.trans unselected
  | @committed drag shape session dragged there valid edited =>
    obtain ⟨r₀, hr₀, rfl⟩ := Session.commitEdit_eq_ok_iff.mp edited
    cases selected.symm.trans hr₀
    exact .inr ⟨drag, shape, ⟨dragged, there, valid⟩, rfl⟩
  | invalid dragged there invalid =>
    refine .inl ⟨fun drag shape hlets => ?_, selected⟩
    cases hlets.1.symm.trans dragged
    cases hlets.2.1.symm.trans there
    exact invalid hlets.2.2

variable {settings : EditorSettings α} {ops : PlanarOps α} {history : History α}

/-- From a committed vertex edit on, as long as neither the map nor the selection is changed, the record has no
buffer and is the layer in degrees. -/
theorem Reached.geographic_of_editLatest (hr : Reached settings ops history e) (h : EditLatest history) :
    ∃ r, e.session.record = some r ∧ r.buffer = 0.0 ∧ r.base = r.working ∧ r.working = geographic e.layer := by
  induction hr with
  | new => cases h
  | view _ _ ih => exact ih h
  | @act earlier e a hr ih =>
    obtain ⟨c, hedit⟩ | ⟨hlayer, hsession, hearlier⟩ := h
    · obtain ⟨drag, shape, session, -, -, rfl, hcommit, hafter⟩ := Turn.edited_of_edit? hedit
      obtain ⟨r, -, rfl⟩ := Session.commitEdit_eq_ok_iff.mp hcommit
      have hstep : (e.step a).1 = e.edited drag shape _ := hafter
      rw [hstep]
      exact ⟨_, rfl, rfl, rfl, rfl⟩
    · have hlayer : (e.step a).1.layer = e.layer := hlayer
      have hsession : (e.step a).1.session = e.session := hsession
      rw [hlayer, hsession]
      exact ih hearlier

/-- A click on a reached editor keeps what the record reverts to, and leaves the whole record as it was exactly when
it lets go of no valid shape, or the record has no buffer and is the layer in degrees. This is so from a committed
vertex edit on, as long as neither the map nor the selection is changed, for shapes within the valid extent. -/
theorem Reached.click_keeps_record_iff (hr : Reached settings ops history e) {r : SelectionRecord α}
    (selected : e.session.record = some r) (pixel : Coord α) :
    (e.click pixel).1.session.record.map (·.initial) = some r.initial ∧
      ((e.click pixel).1.session.record = some r ↔
        ∀ drag shape, e.Lets pixel drag shape →
          r.buffer = 0.0 ∧ r.base = r.working ∧ r.working = geographic (e.released drag shape).layer) ∧
      (EditLatest history →
        (∀ drag shape, e.Lets pixel drag shape → Wrap.unwrapShape shape e.viewport.projection = shape) →
        (e.click pixel).1.session.record = some r) := by
  have hiff : (e.click pixel).1.session.record = some r ↔
      ∀ drag shape, e.Lets pixel drag shape →
        r.buffer = 0.0 ∧ r.base = r.working ∧ r.working = geographic (e.released drag shape).layer := by
    obtain ⟨hnone, hkept⟩ | ⟨drag, shape, hlets, hput⟩ := record_click selected pixel
    · exact iff_of_true hkept fun drag shape hlets => absurd hlets (hnone drag shape)
    · rw [hput, Option.some_inj, SelectionRecord.edit_eq_self_iff]
      refine ⟨fun h drag' shape' hlets' => ?_, fun h => h drag shape hlets⟩
      cases hlets.1.symm.trans hlets'.1
      cases hlets.2.1.symm.trans hlets'.2.1
      exact h
  refine ⟨?_, hiff, fun hlatest hwithin => hiff.mpr fun drag shape hlets => ?_⟩
  · obtain ⟨-, hkept⟩ | ⟨drag, shape, -, hput⟩ := record_click selected pixel
    · rw [hkept, Option.map_some]
    · rw [hput, Option.map_some]
  · obtain ⟨r₀, hr₀, hbuffer, hbase, hworking⟩ := hr.geographic_of_editLatest hlatest
    cases selected.symm.trans hr₀
    have hsame : (e.released drag shape).layer = e.layer := by
      obtain ⟨hlt, hshape⟩ := List.getElem?_eq_some_iff.mp hlets.2.1
      simp only [released, hwithin drag shape hlets]
      rw [← hshape, List.set_getElem_self]
    exact ⟨hbuffer, hbase, by rw [hsame]; exact hworking⟩

/-- A box is drawn on the flat world, and one of its corners is dragged outwards and let go. -/
def cornerLetGo : List (Action Rat) :=
  FlatWorld.boxDrawn ++
    [.pointerDown (FlatWorld.start.viewport.pixelOf ⟨0, 0⟩),
      .pointerDrag (FlatWorld.start.viewport.pixelOf ⟨-100000000, -100000000⟩), .pointerUp]

/-- A click on the corner that was dragged selects the layer once more, and changes nothing. -/
theorem click_keeps_cornerLetGo :
    let e := FlatWorld.start.run cornerLetGo
    let click := e.click (FlatWorld.start.viewport.pixelOf ⟨-100000000, -100000000⟩)
    click.2 matches .committed _ ∧ e.session.record.isSome ∧ click.1.session.record = e.session.record := by
  intro e click
  have hselected : e.session.record.isSome := by decide +kernel
  refine ⟨by decide +kernel, hselected, ?_⟩
  have hr := (Reached.new FlatWorld.new?_eq_start).run cornerLetGo
  obtain ⟨r, hrecord⟩ := Option.isSome_iff_exists.mp hselected
  have hlatest : EditLatest (FlatWorld.start.turns cornerLetGo []) :=
    .inl (Option.isSome_iff_exists.mp (by decide +kernel))
  rw [hrecord]
  refine (hr.click_keeps_record_iff hrecord _).2.2 hlatest fun drag shape hlets => ?_
  have hmem := List.mem_of_getElem? hlets.2.1
  have hwithin : e.layer.all fun shape => shape.coords.all fun c =>
      Wrap.unwrapCoord e.viewport.projection c = c := by decide +kernel
  have hcoords := List.all_eq_true.mp (List.all_eq_true.mp hwithin shape hmem)
  exact (hr.plain shape hmem).map_of_fixed fun c hc => of_decide_eq_true (hcoords c hc)

/-- A box is drawn on the flat world and buffered by a kilometre. -/
def boxBuffered : List (Action Rat) := FlatWorld.boxDrawn ++ [.applyBuffer 1000]

/-- With nothing dragged, a click on a buffered box changes the record: its buffer is gone. -/
theorem not_click_keeps_boxBuffered :
    let e := FlatWorld.start.run boxBuffered
    let click := e.click (FlatWorld.start.viewport.pixelOf ⟨0, 0⟩)
    Reached .default FlatWorld.planarOps (FlatWorld.start.turns boxBuffered []) e ∧ e.draw.drag = none ∧
      ∃ r, e.session.record = some r ∧ click.1.session.record ≠ some r := by
  intro e click
  refine ⟨(Reached.new FlatWorld.new?_eq_start).run boxBuffered, by decide +kernel, ?_⟩
  have hbefore : e.session.record.map (·.buffer) = some 1000 := by decide +kernel
  have hafter : click.1.session.record.map (·.buffer) = some 0 := by decide +kernel
  obtain ⟨r, hrecord, hbuffer⟩ := Option.map_eq_some_iff.mp hbefore
  refine ⟨r, hrecord, fun hsame => ?_⟩
  rw [hsame, Option.map_some, hbuffer] at hafter
  exact absurd (Option.some.inj hafter) (by decide)

end Editor

end AreaOfInterest
