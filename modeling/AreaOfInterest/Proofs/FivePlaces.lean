import AreaOfInterest.Proofs.Dragging
import AreaOfInterest.Proofs.Longitudes
import AreaOfInterest.Proofs.Neighbours
import AreaOfInterest.Proofs.Views

/-!
# Five decimal places

What is drawn, and what the map shows, is selected with every number rounded to five decimal places. The layer keeps it
unrounded, and when a vertex is let go the layer is selected as it lies. So a vertex edit is rounded only where all
positions on the layer happen to be.

With exact scalars, next to the shape that was let go these are positions that came from a rounded selection, as long as
their shapes were not touched.
-/

namespace AreaOfInterest

variable {α : Type} [Scalar α]

namespace FeatureCollection

/-- Every number of a collection: the ordinates of its positions and the limits of its bounding boxes. -/
def numbers (c : FeatureCollection α) : List α := c.positions.flatten ++ c.boxes.flatten

/-- Rounding to five places changes no number of a collection. -/
def IsTruncated (c : FeatureCollection α) : Prop := ∀ v ∈ c.numbers, Mercator.truncate v = v

instance [DecidableEq α] (c : FeatureCollection α) : Decidable c.IsTruncated :=
  inferInstanceAs (Decidable (∀ v ∈ c.numbers, _))

end FeatureCollection

/-- Every position of a shape on the map is at degrees that rounding to five places does not change. -/
def Shape.OnGrid (s : Shape α) : Prop :=
  ∀ c ∈ s.coords, Mercator.truncateCoord (Mercator.unproject c) = Mercator.unproject c

instance [DecidableEq α] (s : Shape α) : Decidable s.OnGrid := inferInstanceAs (Decidable (∀ c ∈ s.coords, _))

/-- Rounding keeps a point when it keeps both coordinates. -/
theorem Mercator.truncateCoord_eq_self_iff {c : Coord α} :
    truncateCoord c = c ↔ truncate c.x = c.x ∧ truncate c.y = c.y := by
  obtain ⟨x, y⟩ := c
  rw [truncateCoord, Coord.mk.injEq]

namespace FeatureCollection

/-- Rounding keeps the ordinates of written points when it keeps the points. -/
theorem forall_truncate_iff (points : List (Coord α)) :
    (∀ v ∈ (points.map Coord.toPosition).flatten, Mercator.truncate v = v) ↔
      ∀ c ∈ points, Mercator.truncateCoord c = c := by
  induction points with
  | nil => simp
  | cons c rest ih =>
    rw [List.map_cons, List.flatten_cons, List.forall_mem_append, ih, List.forall_mem_cons,
      Mercator.truncateCoord_eq_self_iff]
    simp [Coord.toPosition]

/-- The points that are read of a rounded collection are rounded. -/
theorem IsTruncated.truncateCoord {c : FeatureCollection α} (h : c.IsTruncated) {s : Shape α} (hs : s ∈ c.shapes) :
    ∀ d ∈ s.coords, Mercator.truncateCoord d = d := by
  intro d hd
  obtain ⟨p, hp, hcoord⟩ := exists_position_of_mem_shapes hs d hd
  obtain ⟨further, rfl⟩ := Position.eq_of_toCoord hcoord
  have hkept (v : α) (hv : v ∈ d.x :: d.y :: further) : Mercator.truncate v = v :=
    h v (List.mem_append_left _ (List.mem_flatten.mpr ⟨_, hp, hv⟩))
  exact Mercator.truncateCoord_eq_self_iff.mpr ⟨hkept d.x (by simp), hkept d.y (by simp)⟩

/-- A drawing is selected rounded. -/
theorem isTruncated_ofProjected [Exact α] [ExactRounding α] {s : Shape α} (plain : s.Plain) :
    (ofProjected s).IsTruncated := by
  have hlawful := Exact.lawfulBEq α
  refine List.forall_mem_append.mpr ⟨?_, fun v hv => ?_⟩
  · rw [positions_ofProjected plain, forall_truncate_iff, List.forall_mem_map]
    exact fun d _ => Mercator.truncateCoord_eq_self_iff.mpr
      ⟨Mercator.truncate_truncate _, Mercator.truncate_truncate _⟩
  · rw [boxes_ofProjected] at hv
    obtain ⟨box, hbox, hmem⟩ := List.mem_flatten.mp hv
    obtain ⟨e, -, rfl⟩ := Option.map_eq_some_iff.mp (Option.mem_toList.mp hbox)
    obtain ⟨limit, -, rfl⟩ := List.mem_map.mp hmem
    exact Mercator.truncate_truncate limit

end FeatureCollection

section Layer

variable [LawfulBEq α]

/-- A layer is selected rounded exactly when its shapes are on the grid. -/
theorem Editor.isTruncated_geographic_iff {layer : List (Shape α)} (plain : ∀ s ∈ layer, s.Plain) :
    (geographic layer).IsTruncated ↔ ∀ s ∈ layer, s.OnGrid := by
  rw [FeatureCollection.IsTruncated, FeatureCollection.numbers, boxes_geographic, List.flatten_nil, List.append_nil,
    positions_geographic plain, FeatureCollection.forall_truncate_iff, List.forall_mem_flatMap]
  simp only [List.forall_mem_map, Shape.OnGrid]

/-- A shape that is written like a rounded one is on the grid. -/
theorem Shape.onGrid_of_toFeature {shape s : Shape α} (plain : shape.Plain)
    (same : shape.toFeature = .ofGeometry (.ofShape s)) (rounded : ∀ d ∈ s.coords, Mercator.truncateCoord d = d) :
    shape.OnGrid := by
  have hgeometry : Geometry.ofShape (Mercator.unprojectShape shape) = Geometry.ofShape s :=
    Option.some.inj (congrArg Feature.geometry same)
  have hpositions := congrArg Geometry.positions hgeometry
  rw [Geometry.positions_ofShape, Geometry.positions_ofShape, Mercator.unprojectShape, plain.coords_map] at hpositions
  have hcoords := List.map_injective_iff.mpr Coord.toPosition_injective hpositions
  intro c hc
  exact rounded _ (hcoords ▸ List.mem_map_of_mem hc)

end Layer

namespace Editor

variable [Surface α] {settings : EditorSettings α} {ops : PlanarOps α} {history : History α} {e : Editor α}

/-- Next to another shape, one that nothing was done to since it came from a rounded selection is on the grid, as long
as no drawing took the layer. -/
theorem Reached.onGrid_of_loaded [LawfulBEq α] [Mercator.Invertible α] (hr : Reached settings ops history e)
    {w : FeatureCollection α} (selected : e.working = some w) (rounded : w.IsTruncated)
    (covers : ∀ s ∈ w.shapes, Mercator.Covers s) (free : ∀ t ∈ sinceAligned history, ¬ t.takes)
    (several : 1 < e.layer.length) {i : Nat} {s : Shape α} (loaded : standing (sinceAligned history) i = .loaded)
    (there : e.layer[i]? = some s) : s.OnGrid := by
  have hshows := hr.showsSelection w selected free
  have hlt : i < w.shapes.length := by
    rw [← hshows.length]
    exact (List.getElem?_eq_some_iff.mp there).1
  have hmem := List.getElem_mem hlt
  have hfeature := hshows.toFeature_of_loaded several loaded there (List.getElem?_eq_getElem hlt)
    (FeatureCollection.plain_of_mem_shapes hmem) (covers _ hmem)
  exact Shape.onGrid_of_toFeature (hr.plain s (List.mem_of_getElem? there)) hfeature (rounded.truncateCoord hmem)

/-- What is drawn and what the map shows is selected rounded, whatever was done before. What a vertex edit commits is
rounded exactly when all shapes on the layer are on the grid. If the selection was rounded and within the map, and no
drawing took the layer since, these are the one that was let go and those that were touched since. -/
theorem Reached.truncated_iff [Exact α] [ExactRounding α] (hr : Reached settings ops history e) :
    (∀ ring s c provenance, (e.drawEnd ring).2 = .committed s c provenance → c.IsTruncated) ∧
    (∀ w, e.selectMapView.working = some w → w.IsTruncated) ∧
    ∀ c, e.pointerUp.2 = .committed c → ∃ drag, e.draw.drag = some drag ∧
      (c.IsTruncated ↔ ∀ s ∈ e.pointerUp.1.layer, s.OnGrid) ∧
      (Mercator.Invertible α → ∀ w, e.working = some w → w.IsTruncated → (∀ s ∈ w.shapes, Mercator.Covers s) →
        (∀ t ∈ sinceAligned history, ¬ t.takes) →
          (c.IsTruncated ↔ ∀ (i : Nat) (s : Shape α),
            i = drag.feature ∨ standing (sinceAligned history) i ≠ .loaded →
              e.pointerUp.1.layer[i]? = some s → s.OnGrid)) := by
  have hlawful := Exact.lawfulBEq α
  refine ⟨fun ring s c provenance committed => ?_, fun w hw => ?_, fun c committed => ?_⟩
  · have hend := e.drawEnd_ends ring
    generalize (e.drawEnd ring).1 = e', (e.drawEnd ring).2 = outcome at hend committed
    cases hend with
    | ignored | degenerate | invalid => cases committed
    | committed =>
      cases committed
      exact FeatureCollection.isTruncated_ofProjected (.polygon (Polygon.closed_ofRings _ _))
  · obtain ⟨ring, -, hworking⟩ := e.selectMapView_sketched
    cases hw.symm.trans hworking
    exact FeatureCollection.isTruncated_ofProjected (.polygon (Polygon.closed_ofRings _ _))
  · have hplain : ∀ s ∈ e.pointerUp.1.layer, s.Plain := Turn.plain ⟨e, .pointerUp⟩ hr.plain
    have hend := e.pointerUp_ends
    generalize e.pointerUp.1 = e', e.pointerUp.2 = outcome at hend committed hplain
    cases hend with
    | idle | offLayer | unselected | invalid => cases committed
    | @committed drag shape session dragged there =>
      cases committed
      have hgrid := isTruncated_geographic_iff hplain
      refine ⟨drag, dragged, hgrid, fun invertible w selected rounded covers free => hgrid.trans ?_⟩
      refine ⟨fun h i s _ hi => h s (List.mem_of_getElem? hi), fun h s hs => ?_⟩
      obtain ⟨i, hi⟩ := List.mem_iff_getElem?.mp hs
      by_cases htouched : i = drag.feature ∨ standing (sinceAligned history) i ≠ .loaded
      · exact h i s htouched hi
      · obtain ⟨hne, hloaded⟩ := not_or.mp htouched
        have hbefore : e.layer[i]? = some s := by
          rw [← List.getElem?_set_ne (Ne.symm hne)]
          exact hi
        have hfirst := (List.getElem?_eq_some_iff.mp hbefore).1
        have hsecond := (List.getElem?_eq_some_iff.mp there).1
        exact hr.onGrid_of_loaded selected rounded covers free (by omega) (not_not.mp hloaded) hbefore

/-- When the corner of the second field of the region is let go, at whole degrees, what is committed is rounded. -/
theorem truncated_regionRaised :
    ∃ c, (FlatWorld.start.run regionRaised).pointerUp.2 = .committed c ∧ c.IsTruncated := by
  have hr := (Reached.new FlatWorld.new?_eq_start).run regionRaised
  have hup : (Turn.mk (FlatWorld.start.run regionRaised) .pointerUp).edit?.isSome := by decide +kernel
  obtain ⟨c, hc⟩ := Option.isSome_iff_exists.mp hup
  have hcommitted := committed_of_edit? hc
  obtain ⟨drag, hdrag, -, hiff⟩ := hr.truncated_iff.2.2 c hcommitted
  have hfree : (sinceAligned (FlatWorld.start.turns regionRaised [])).all (!·.takes) := by decide +kernel
  have hcovers : ∀ s ∈ region.shapes, Mercator.Covers s := by decide +kernel
  refine ⟨c, hcommitted, (hiff inferInstance region working_regionRaised (by decide +kernel) hcovers
    (by simpa using hfree)).mpr fun i s _ hi => ?_⟩
  have hgrid : (FlatWorld.start.run regionRaised).pointerUp.1.layer.all fun s => decide s.OnGrid := by decide +kernel
  simpa using List.all_eq_true.mp hgrid s (List.mem_of_getElem? hi)

/-- When the corner of a drawn box is let go, what is committed is not rounded, although the box was. -/
theorem not_truncated_cornerDragged :
    Reached .default FlatWorld.planarOps (FlatWorld.start.turns cornerDragged []) (FlatWorld.start.run cornerDragged) ∧
      (FlatWorld.start.run cornerDragged).working.all (fun w => decide w.IsTruncated) ∧
      ∃ c, (FlatWorld.start.run cornerDragged).pointerUp.2 = .committed c ∧ ¬ c.IsTruncated := by
  refine ⟨(Reached.new FlatWorld.new?_eq_start).run cornerDragged, by decide +kernel, ?_⟩
  have hup : (Turn.mk (FlatWorld.start.run cornerDragged) .pointerUp).edit?.any fun c => !decide c.IsTruncated := by
    decide +kernel
  obtain ⟨c, hc, hunrounded⟩ := (Option.any_eq_true _ _).mp hup
  exact ⟨c, committed_of_edit? hc, by simpa using hunrounded⟩

end Editor

end AreaOfInterest
