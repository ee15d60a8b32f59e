import AreaOfInterest.Proofs.Conversions
import AreaOfInterest.Proofs.Sessions

/-!
# What is on the layer

The layer holds shapes alone. Of a collection that is put there it has one shape for each feature that can be read,
in their order. Of a layer that is selected the collection has one bare feature for each shape.

Whatever is done with an editor, the shapes on its layer are plain. So a layer that was selected is read back as it
is.
-/

namespace AreaOfInterest

variable {α : Type} [Scalar α]

namespace FeatureCollection

/-- The features that have a shape. -/
def readable (c : FeatureCollection α) : List (Feature α) := c.features.filter (·.toShape?.isSome)

/-- The shapes of the features that have one. -/
def shapes (c : FeatureCollection α) : List (Shape α) := c.features.filterMap Feature.toShape?

/-- A collection is put on the map shape by shape. -/
theorem toProjected_eq (c : FeatureCollection α) : c.toProjected = c.shapes.map Mercator.projectShape := by
  rw [toProjected, geometries, shapes, List.filterMap_filterMap, List.map_filterMap]
  congr 1
  funext f
  cases h : f.geometry <;> simp [Feature.toShape?, h]

/-- The shape at a place is the one of the readable feature there. -/
theorem getElem?_shapes (c : FeatureCollection α) (i : Nat) : c.shapes[i]? = c.readable[i]?.bind Feature.toShape? := by
  obtain ⟨bbox, features⟩ := c
  simp only [shapes, readable]
  induction features generalizing i with
  | nil => rfl
  | cons f rest ih =>
    cases hshape : f.toShape? with
    | none => simpa [hshape] using ih i
    | some s =>
      cases i with
      | zero => simp [hshape]
      | succ i => simpa [hshape] using ih i

/-- There are as many shapes as readable features. -/
theorem length_shapes (c : FeatureCollection α) : c.shapes.length = c.readable.length := by
  obtain ⟨bbox, features⟩ := c
  simp only [shapes, readable]
  induction features with
  | nil => rfl
  | cons f rest ih => cases hshape : f.toShape? <;> simp [hshape, ih]

/-- Whatever is read of a collection is plain. -/
theorem plain_of_mem_shapes [ReflBEq α] {c : FeatureCollection α} {s : Shape α} (h : s ∈ c.shapes) : s.Plain := by
  obtain ⟨f, -, hshape⟩ := List.mem_filterMap.mp h
  obtain ⟨g, -, hread⟩ := Feature.toShape?_eq_some_iff.mp hshape
  exact Geometry.plain_of_toShape hread

/-- Whatever is put on the map is plain. -/
theorem plain_of_mem_toProjected [ReflBEq α] {c : FeatureCollection α} {s : Shape α} (h : s ∈ c.toProjected) :
    s.Plain := by
  rw [toProjected_eq] at h
  obtain ⟨original, hmem, rfl⟩ := List.mem_map.mp h
  exact (plain_of_mem_shapes hmem).map _

/-- A drawing is selected as a collection of one shape. -/
theorem length_shapes_ofProjected [ReflBEq α] {s : Shape α} (plain : s.Plain) : (ofProjected s).shapes.length = 1 := by
  have hshape : { Feature.ofGeometry (Geometry.ofShape ((Mercator.unprojectShape s).map Mercator.truncateCoord)) with
      bbox := (Extent.ofShape? s).map Extent.serialize }.toShape? =
        some ((Mercator.unprojectShape s).map Mercator.truncateCoord) :=
    Feature.toShape?_eq_some_iff.mpr ⟨_, rfl, ((plain.map _).map _).toShape_ofShape⟩
  simp [shapes, ofProjected, single, ofFeatures, hshape]

end FeatureCollection

/-- The feature of a plain shape is read as that shape. -/
theorem Shape.Plain.toShape?_toFeature [ReflBEq α] {s : Shape α} (plain : s.Plain) :
    s.toFeature.toShape? = some (Mercator.unprojectShape s) :=
  Feature.toShape?_eq_some_iff.mpr ⟨_, rfl, (plain.map _).toShape_ofShape⟩

/-- A layer that is selected has the shapes of the layer, taken off the map. -/
theorem Editor.shapes_geographic [ReflBEq α] {layer : List (Shape α)} (plain : ∀ s ∈ layer, s.Plain) :
    (geographic layer).shapes = layer.map Mercator.unprojectShape := by
  rw [FeatureCollection.shapes, geographic_features]
  induction layer with
  | nil => rfl
  | cons s rest ih =>
    obtain ⟨hs, hrest⟩ := List.forall_mem_cons.mp plain
    rw [List.map_cons, List.filterMap_cons_some hs.toShape?_toFeature, ih hrest, List.map_cons]

/-- What is shown of a selection is what is put on the map of it. -/
theorem Editor.exists_of_mem_showWorking [Surface α] {e : Editor α} {s : Shape α}
    (h : s ∈ e.showWorking.layer) : ∃ w, e.working = some w ∧ s ∈ w.toProjected := by
  have hlayer : e.showWorking.layer = (e.working.map FeatureCollection.toProjected).getD [] := rfl
  rw [hlayer] at h
  cases hworking : e.working with
  | none => simp [hworking] at h
  | some w => exact ⟨w, rfl, by simpa [hworking] using h⟩

/-- What is shown of a selection is plain. -/
theorem Editor.plain_showWorking [Surface α] [ReflBEq α] (e : Editor α) : ∀ s ∈ e.showWorking.layer, s.Plain := by
  intro s hs
  obtain ⟨w, -, hmem⟩ := exists_of_mem_showWorking hs
  exact FeatureCollection.plain_of_mem_toProjected hmem

/-- A plain shape stays plain when one of its polygons gets another exterior. -/
theorem Shape.Plain.setPolygon [ReflBEq α] {s : Shape α} (plain : s.Plain) {i : Nat} {p : Polygon α}
    (part : s.polygonAt? i = some p) (ring : Polyline α) : (s.setPolygon i (p.withExterior ring)).Plain := by
  have hclosed (h : p.Closed) : (p.withExterior ring).Closed :=
    List.forall_mem_cons.mpr ⟨Polyline.isClosed_close ring, (List.forall_mem_cons.mp h).2⟩
  cases plain with
  | @polygon q closed =>
    cases i with
    | zero =>
      cases part
      exact .polygon (hclosed closed)
    | succ i => cases part
  | @multiPolygon ps closed =>
    refine .multiPolygon fun q hq => ?_
    obtain hmem | rfl := List.mem_or_eq_of_mem_set hq
    · exact closed q hmem
    · exact hclosed (closed p (List.mem_of_getElem? part))
  | point | polyline | multiPoint | multiPolyline | collection => cases part

variable [Surface α]

/-- Whatever is done, what comes onto the layer is plain. -/
theorem Turn.plain [ReflBEq α] (t : Turn α) (h : ∀ s ∈ t.before.layer, s.Plain) : ∀ s ∈ t.after.layer, s.Plain := by
  have hset {i : Nat} {shape : Shape α} (hshape : shape.Plain) : ∀ s ∈ t.before.layer.set i shape, s.Plain := by
    intro s hs
    obtain hmem | rfl := List.mem_or_eq_of_mem_set hs
    · exact h s hmem
    · exact hshape
  have hpolygon (exterior : Polyline α) : ∀ s ∈ [Shape.polygon (.ofRings exterior [])], s.Plain := by
    intro s hs
    cases List.mem_singleton.mp hs
    exact .polygon (Polygon.closed_ofRings exterior [])
  cases t.course with
  | declined _ after | looked _ _ after | chosen _ _ _ after | picked _ _ _ _ after | offLayer _ _ _ _ after
  | previewed _ _ _ after | closed _ _ after =>
    rw [after]
    exact h
  | cancelled _ after | began _ _ _ after =>
    rw [after]
    exact List.forall_mem_nil _
  | crossed _ _ _ after | drawn _ _ _ _ _ after | viewSelected _ _ after =>
    rw [after]
    exact hpolygon _
  | moved _ _ _ there part _ after =>
    rw [after]
    exact hset ((h _ (List.mem_of_getElem? there)).setPolygon part _)
  | unselected _ _ _ there _ after | edited _ _ _ there _ _ after | rejected _ _ _ there _ after =>
    rw [after]
    exact hset ((h _ (List.mem_of_getElem? there)).map _)
  | @selected c provenance title description _ _ _ after =>
    rw [after]
    exact Editor.plain_showWorking
      { t.before.handle .cancel with session := t.before.session.select c provenance title description }
  | buffered _ _ _ after | reverted _ _ _ after =>
    rw [after]
    exact Editor.plain_showWorking _

/-- In every reached editor the shapes on the layer are plain. -/
theorem Editor.Reached.plain [ReflBEq α] {settings : EditorSettings α} {ops : PlanarOps α} {history : History α}
    {e : Editor α} (hr : Reached settings ops history e) : ∀ s ∈ e.layer, s.Plain := by
  induction hr with
  | new hnew =>
    obtain ⟨v, rfl⟩ := new?_eq_some hnew
    exact List.forall_mem_nil _
  | @act _ e a _ ih => exact Turn.plain ⟨e, a⟩ ih
  | view _ _ ih => exact ih

end AreaOfInterest
