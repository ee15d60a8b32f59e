import AreaOfInterest.Proofs.Positions
import AreaOfInterest.Proofs.Rounding

/-!
# Longitudes

Degrees from -180 to 180 are the frame of geographic positions. On the map they are the eastings between the two edges
of the world, and with exact scalars going from one to the other leaves neither.

So a collection that is put on the map lies within the world if its longitudes are in the frame, and of what lies within
the world a collection in the frame is made. What is drawn is shifted back into the world first. A buffer is not: it
goes beyond an edge as soon as its outline does.
-/

namespace AreaOfInterest

variable {α : Type} [Scalar α]

namespace Mercator

/-- Degrees within one turn. -/
def IsLongitude (x : α) : Prop := -180.0 ≤ x ∧ x ≤ 180.0

/-- Metres between the edges of the world. -/
def IsEasting (x : α) : Prop := -halfWorld ≤ x ∧ x ≤ halfWorld

instance (x : α) : Decidable (IsLongitude x) := inferInstanceAs (Decidable (_ ∧ _))

end Mercator

namespace FeatureCollection

/-- The longitudes of a collection's positions. -/
def longitudes (c : FeatureCollection α) : List α := c.positions.filterMap List.head?

/-- The western and the eastern limits of a collection's bounding boxes: the first numbers of their two corners. -/
def boxLongitudes (c : FeatureCollection α) : List α :=
  c.boxes.flatMap fun box => box[0]?.toList ++ box[box.length / 2]?.toList

/-- Every position of a collection is within one turn. -/
def InFrame (c : FeatureCollection α) : Prop := ∀ x ∈ c.longitudes, Mercator.IsLongitude x

/-- Every bounding box of a collection is within one turn. -/
def BoxesInFrame (c : FeatureCollection α) : Prop := ∀ x ∈ c.boxLongitudes, Mercator.IsLongitude x

instance (c : FeatureCollection α) : Decidable c.InFrame := inferInstanceAs (Decidable (∀ x ∈ c.longitudes, _))

omit [Scalar α] in
/-- The longitudes of written points are their first coordinates. -/
theorem longitudes_of_positions {c : FeatureCollection α} {points : List (Coord α)}
    (h : c.positions = points.map Coord.toPosition) : c.longitudes = points.map (·.x) := by
  rw [longitudes, h, List.filterMap_map]
  exact congrFun List.filterMap_eq_map points

/-- Without a bounding box there is none out of the frame. -/
theorem boxesInFrame_of_boxes {c : FeatureCollection α} (h : c.boxes = []) : c.BoxesInFrame := by
  simp [BoxesInFrame, boxLongitudes, h]

end FeatureCollection

/-- Every position of a shape on the map lies between the edges of the world. -/
def Shape.InWorld (s : Shape α) : Prop := ∀ c ∈ s.coords, Mercator.IsEasting c.x

namespace Shape

/-- The positions of some polygons in one shape are those of each in turn. -/
theorem coords_ofPolygons (ps : List (Polygon α)) :
    (ofPolygons ps).coords = ps.flatMap (·.rings.flatten) := by
  unfold ofPolygons
  split
  · rw [coords, List.flatMap_singleton]
  · rfl

/-- The polygons of a mapped shape are the mapped ones. -/
theorem polygons_map_ofPolygons (ps : List (Polygon α)) (f : Coord α → Coord α) :
    ((ofPolygons ps).map f).polygons = ps.map (·.map f) := by
  unfold ofPolygons
  split <;> rfl

end Shape

namespace PlanarOps

/-- The points of some polygons go from a western to an eastern easting, both of which are reached. -/
structure Spans (polygons : List (Polygon α)) (west east : α) : Prop where
  between : ∀ p ∈ polygons, ∀ c ∈ p.rings.flatten, west ≤ c.x ∧ c.x ≤ east
  west : ∃ p ∈ polygons, ∃ c ∈ p.rings.flatten, c.x = west
  east : ∃ p ∈ polygons, ∃ c ∈ p.rings.flatten, c.x = east

/-- The outline of a point reaches its distance to each side of the point, as that of a true buffer does. -/
def RoundsPoints (ops : PlanarOps α) : Prop :=
  ∀ (c : Coord α) (distance : α), 0.0 < distance →
    ∃ polygons, ops.buffer? (.point c) distance = some polygons ∧ Spans polygons (c.x - distance) (c.x + distance)

/-- What a single point becomes when it is buffered. -/
theorem bufferFeatures_point {ops : PlanarOps α} {c w : FeatureCollection α} {f : Feature α} {x y distance : α}
    {further : List α} (features : c.features = [f]) (point : f.geometry = some (.point (x :: y :: further)))
    {polygons : List (Polygon α)}
    (outline : ops.buffer? (.point (Mercator.project ⟨x, y⟩)) (effectiveDistance distance) = some polygons)
    (buffered : ops.bufferFeatures c distance true = .ok w) :
    w = .single (.ofGeometry (.ofShape (.ofPolygons (polygons.map (·.map Mercator.unproject))))) := by
  have hshape : f.toShape? = some (.point ⟨x, y⟩) := Feature.toShape?_eq_some_iff.mpr ⟨_, point, rfl⟩
  have hpart : ops.bufferShape? (.point ⟨x, y⟩) distance true =
      some (Mercator.unprojectShape (Shape.ofPolygons polygons)) := by
    simp [bufferShape?, Shape.isPolygonal, Mercator.projectShape, Shape.map, outline]
  have hparts : ops.bufferParts? distance true c.features =
      some [polygons.map (·.map Mercator.unproject)] := by
    simp [features, bufferParts?, hshape, hpart, Mercator.unprojectShape, Shape.polygons_map_ofPolygons]
  simp only [bufferFeatures, hparts, unionAll, List.foldl_nil] at buffered
  split at buffered
  · cases buffered
  · exact (Except.ok.inj buffered).symm

end PlanarOps

namespace Extent

/-- Whatever holds of all values of an axis holds of the two limits. -/
theorem forall_foldl_widenRange {P : α → Prop} {values : List α} {range : α × α} (start : P range.1 ∧ P range.2)
    (all : ∀ v ∈ values, P v) : P (values.foldl widenRange range).1 ∧ P (values.foldl widenRange range).2 := by
  induction values generalizing range with
  | nil => exact start
  | cons v rest ih =>
    obtain ⟨hv, hrest⟩ := List.forall_mem_cons.mp all
    refine ih ?_ hrest
    unfold widenRange
    split
    · exact ⟨start.1, hv⟩
    · split
      · exact ⟨hv, start.2⟩
      · exact start

/-- The bounding rectangle of what lies within the world lies within it. -/
theorem isEasting_of_bounding? {coords : List (Coord α)} {e : Extent α}
    (within : ∀ c ∈ coords, Mercator.IsEasting c.x) (h : bounding? coords = some e) :
    Mercator.IsEasting e.minX ∧ Mercator.IsEasting e.maxX := by
  cases coords with
  | nil => cases h
  | cons c rest =>
    cases h
    obtain ⟨hc, hrest⟩ := List.forall_mem_cons.mp within
    exact forall_foldl_widenRange ⟨hc, hc⟩ (List.forall_mem_map.mpr hrest)

end Extent

section Exactly

open Exact

variable [Exact α]

namespace Mercator

/-- Half a turn on the real line. -/
theorem real_halfTurn : real (180.0 : α) = 180 := by
  rw [real_ofScientific]
  norm_num

/-- Degrees within one turn on the real line. -/
theorem isLongitude_iff {x : α} : IsLongitude x ↔ real x ∈ Set.Icc ((-180 : ℤ) : ℝ) (180 : ℤ) := by
  rw [IsLongitude, le_iff (-180.0) x, le_iff x 180.0, real_neg, real_halfTurn, Set.mem_Icc]
  norm_num

/-- Metres between the edges of the world on the real line. -/
theorem isEasting_iff {x : α} : IsEasting x ↔ real x ∈ Set.Icc (-real (halfWorld : α)) (real (halfWorld : α)) := by
  rw [IsEasting, le_iff (-halfWorld) x, le_iff x halfWorld, real_neg, Set.mem_Icc]

/-- Longitudes are to half a turn as eastings are to half the world. -/
theorem real_longitude (x : α) : real (longitude x) * real (halfWorld : α) = 180 * real x := by
  have hpi := (pi_pos (α := α)).ne'
  rw [longitude, degrees, real_mul, real_div, real_div, real_halfTurn, real_earthRadius, real_halfWorld]
  field_simp

/-- Eastings are to half the world as longitudes are to half a turn. -/
theorem real_easting (x : α) : real (easting x) * 180 = real x * real (halfWorld : α) := by
  rw [easting, radians, real_mul, real_mul, real_div, real_halfTurn, real_earthRadius, real_halfWorld]
  ring

/-- A longitude is within one turn when its easting is between the edges of the world. -/
theorem isLongitude_longitude_iff {x : α} : IsLongitude (longitude x) ↔ IsEasting x := by
  have hpos := real_halfWorld_pos (α := α)
  have hscaled := real_longitude x
  rw [isLongitude_iff, isEasting_iff]
  push_cast
  constructor
  · rintro ⟨hwest, heast⟩
    have hwest' := mul_le_mul_of_nonneg_right hwest hpos.le
    have heast' := mul_le_mul_of_nonneg_right heast hpos.le
    constructor <;> linarith
  · rintro ⟨hwest, heast⟩
    exact ⟨le_of_mul_le_mul_right (by linarith) hpos, le_of_mul_le_mul_right (by linarith) hpos⟩

/-- An easting is between the edges of the world when its longitude is within one turn. -/
theorem isEasting_easting_iff {x : α} : IsEasting (easting x) ↔ IsLongitude x := by
  have hpos := real_halfWorld_pos (α := α)
  have hscaled := real_easting x
  rw [isLongitude_iff, isEasting_iff]
  push_cast
  constructor
  · rintro ⟨hwest, heast⟩
    exact ⟨le_of_mul_le_mul_right (by linarith) hpos, le_of_mul_le_mul_right (by linarith) hpos⟩
  · rintro ⟨hwest, heast⟩
    have hwest' := mul_le_mul_of_nonneg_right hwest hpos.le
    have heast' := mul_le_mul_of_nonneg_right heast hpos.le
    constructor <;> linarith

/-- Rounding keeps a longitude within one turn. -/
theorem isLongitude_truncate [ExactRounding α] {x : α} (h : IsLongitude x) : IsLongitude (truncate x) :=
  isLongitude_iff.mpr (real_truncate_mem (isLongitude_iff.mp h))

/-- Keeping a longitude within one turn leaves one that is as it is within one turn. -/
theorem isLongitude_clampLongitude [NumericOrder α] {c : Coord α} (h : IsLongitude c.x) :
    IsLongitude (clampLongitude c).x := by
  have hself (x : α) : x == x := (beq_iff x x).mpr rfl
  have heast : IsLongitude (180.0 : α) := isLongitude_iff.mpr (by rw [real_halfTurn]; norm_num)
  have hwest : IsLongitude (-180.0 : α) := isLongitude_iff.mpr (by rw [real_neg, real_halfTurn]; norm_num)
  unfold clampLongitude
  dsimp only
  split
  · rw [NumericOrder.min_eq (hself _) (hself _)]
    split
    · exact heast
    · exact h
  · rw [NumericOrder.max_eq (hself _) (hself _)]
    split
    · exact hwest
    · exact h

/-- What is shifted back lies between the edges of the world. -/
theorem isEasting_unwrapX (x : α) : IsEasting (Wrap.unwrapX x .world) := by
  have hordered : real (Extent.world : Extent α).minX ≤ real (Extent.world : Extent α).maxX := by
    have hpos := real_halfWorld_pos (α := α)
    rw [Extent.real_minX_world, Extent.real_maxX_world]
    linarith
  rw [isEasting_iff, ← Extent.real_minX_world]
  exact Wrap.unwrapX_mem hordered x

end Mercator

namespace Shape

/-- A shape that is shifted back lies within the world. -/
theorem inWorld_unwrapShape {s : Shape α} (plain : s.Plain) : (Wrap.unwrapShape s .world).InWorld := by
  have := Exact.lawfulBEq α
  rw [InWorld, Wrap.unwrapShape, plain.coords_map, List.forall_mem_map]
  exact fun c _ => Mercator.isEasting_unwrapX c.x

/-- A ring that is shifted back goes around a polygon within the world. -/
theorem inWorld_polygon_unwrap (ring : Polyline α) :
    (Shape.polygon (.ofRings (ring.map (Wrap.unwrapCoord .world)) [])).InWorld := by
  intro c hc
  rw [Shape.coords, Polygon.mem_ofRings, List.flatten_singleton] at hc
  obtain ⟨d, -, rfl⟩ := List.mem_map.mp hc
  exact Mercator.isEasting_unwrapX d.x

end Shape

namespace FeatureCollection

/-- What is put on the map of a collection in the frame lies within the world. -/
theorem InFrame.inWorld {c : FeatureCollection α} (h : c.InFrame) : ∀ s ∈ c.toProjected, s.InWorld := by
  have := Exact.lawfulBEq α
  intro s hs
  rw [toProjected_eq] at hs
  obtain ⟨original, hmem, rfl⟩ := List.mem_map.mp hs
  have hplain := plain_of_mem_shapes hmem
  rw [Shape.InWorld, Mercator.projectShape, hplain.coords_map, List.forall_mem_map]
  intro d hd
  obtain ⟨p, hp, hcoord⟩ := exists_position_of_mem_shapes hmem d hd
  obtain ⟨further, rfl⟩ := Position.eq_of_toCoord hcoord
  exact Mercator.isEasting_easting_iff.mpr (h d.x (List.mem_filterMap.mpr ⟨_, hp, rfl⟩))

/-- A drawing within the world is selected in the frame. -/
theorem inFrame_ofProjected [ExactRounding α] {s : Shape α} (plain : s.Plain) (within : s.InWorld) :
    (ofProjected s).InFrame := by
  have := Exact.lawfulBEq α
  rw [InFrame, longitudes_of_positions (positions_ofProjected plain), List.map_map, List.forall_mem_map]
  exact fun d hd => Mercator.isLongitude_truncate (Mercator.isLongitude_longitude_iff.mpr (within d hd))

/-- The bounding box of a drawing within the world is stored in the frame. -/
theorem boxesInFrame_ofProjected [ExactRounding α] [NumericOrder α] {p : Polygon α}
    (within : (Shape.polygon p).InWorld) : (ofProjected (.polygon p)).BoxesInFrame := by
  intro x hx
  obtain ⟨box, hbox, hx⟩ := List.mem_flatMap.mp hx
  rw [boxes_ofProjected] at hbox
  obtain ⟨e, he, rfl⟩ := Option.map_eq_some_iff.mp (Option.mem_toList.mp hbox)
  have hexterior : ∀ c ∈ p.exterior, Mercator.IsEasting c.x := fun c hc =>
    within c (List.mem_append_left _ hc)
  obtain ⟨hwest, heast⟩ := Extent.isEasting_of_bounding? hexterior he
  have hstored (c : Coord α) (h : Mercator.IsEasting c.x) :
      Mercator.IsLongitude (Mercator.truncate (Mercator.clampLongitude (Mercator.unproject c)).x) :=
    Mercator.isLongitude_truncate
      (Mercator.isLongitude_clampLongitude (Mercator.isLongitude_longitude_iff.mpr h))
  have hlimits : e.serialize[0]?.toList ++ e.serialize[e.serialize.length / 2]?.toList =
      [Mercator.truncate (Mercator.clampLongitude (Mercator.unproject ⟨e.minX, e.minY⟩)).x,
        Mercator.truncate (Mercator.clampLongitude (Mercator.unproject ⟨e.maxX, e.maxY⟩)).x] := by
    simp [Extent.serialize]
  rw [hlimits] at hx
  obtain rfl | rfl := List.mem_pair.mp hx
  · exact hstored ⟨e.minX, e.minY⟩ hwest
  · exact hstored ⟨e.maxX, e.maxY⟩ heast

end FeatureCollection

/-- A layer is selected in the frame exactly when its shapes lie within the world. -/
theorem Editor.inFrame_geographic_iff {layer : List (Shape α)} (plain : ∀ s ∈ layer, s.Plain) :
    (geographic layer).InFrame ↔ ∀ s ∈ layer, s.InWorld := by
  have := Exact.lawfulBEq α
  rw [FeatureCollection.InFrame, FeatureCollection.longitudes_of_positions (positions_geographic plain)]
  simp only [List.map_flatMap, List.map_map, List.mem_flatMap, List.mem_map, forall_exists_index, and_imp]
  constructor
  · intro h s hs c hc
    exact Mercator.isLongitude_longitude_iff.mp (h _ s hs c hc rfl)
  · rintro h _ s hs c hc rfl
    exact Mercator.isLongitude_longitude_iff.mpr (h s hs c hc)

namespace PlanarOps

/-- The distance of a buffer is some distance. -/
theorem effectiveDistance_pos {distance : α} (h : 0.0 ≤ distance) : (0.0 : α) < effectiveDistance distance := by
  unfold effectiveDistance
  split
  · rw [lt_iff, real_zero, minBuffer, real_ofScientific]
    norm_num
  · next hsome =>
    have hne : distance ≠ 0.0 := fun hd => hsome (.inl ((beq_iff _ _).mpr hd))
    rw [le_iff] at h
    rw [lt_iff]
    exact lt_of_le_of_ne h fun hreal => hne (real_injective hreal).symm

/-- An outline is selected in the frame exactly when it lies between the edges of the world. -/
theorem inFrame_outline_iff {polygons : List (Polygon α)} :
    (FeatureCollection.single
      (.ofGeometry (.ofShape (.ofPolygons (polygons.map (·.map Mercator.unproject)))))).InFrame ↔
      ∀ p ∈ polygons, ∀ d ∈ p.rings.flatten, Mercator.IsEasting d.x := by
  have hpositions : (FeatureCollection.single
      (.ofGeometry (.ofShape (.ofPolygons (polygons.map (·.map Mercator.unproject)))))).positions =
      ((polygons.map (·.map Mercator.unproject)).flatMap (·.rings.flatten)).map Coord.toPosition := by
    rw [← Shape.coords_ofPolygons, ← Geometry.positions_ofShape]
    exact List.append_nil _
  rw [FeatureCollection.InFrame, FeatureCollection.longitudes_of_positions hpositions, List.forall_mem_map,
    List.flatMap_map]
  constructor
  · intro h p hp d hd
    refine Mercator.isLongitude_longitude_iff.mp (h (Mercator.unproject d) (List.mem_flatMap.mpr ⟨p, hp, ?_⟩))
    exact Polygon.mem_rings_map.mpr ⟨d, hd, rfl⟩
  · intro h c hc
    obtain ⟨p, hp, hmem⟩ := List.mem_flatMap.mp hc
    obtain ⟨d, hd, rfl⟩ := Polygon.mem_rings_map.mp hmem
    exact Mercator.isLongitude_longitude_iff.mpr (h p hp d hd)

/-- Polygons lie between the edges of the world exactly when the two ends of their span do. -/
theorem Spans.isEasting_iff {polygons : List (Polygon α)} {west east : α} (h : Spans polygons west east) :
    (∀ p ∈ polygons, ∀ d ∈ p.rings.flatten, Mercator.IsEasting d.x) ↔
      Mercator.IsEasting west ∧ Mercator.IsEasting east := by
  constructor
  · intro hall
    obtain ⟨p, hp, d, hd, rfl⟩ := h.west
    obtain ⟨p', hp', d', hd', rfl⟩ := h.east
    exact ⟨hall p hp d hd, hall p' hp' d' hd'⟩
  · rintro ⟨hwest, heast⟩ p hp d hd
    obtain ⟨hlower, hupper⟩ := h.between p hp d hd
    rw [Mercator.isEasting_iff] at *
    rw [le_iff] at hlower hupper
    exact ⟨hwest.1.trans hlower, hupper.trans heast.2⟩

/-- A point that is buffered stays in the frame exactly when it is at least as far from both edges of the world. -/
theorem inFrame_bufferFeatures_point_iff {ops : PlanarOps α} (rounds : ops.RoundsPoints) {c w : FeatureCollection α}
    {f : Feature α} {x y distance : α} {further : List α} (features : c.features = [f])
    (point : f.geometry = some (.point (x :: y :: further))) (admitted : 0.0 ≤ distance)
    (buffered : ops.bufferFeatures c distance true = .ok w) :
    w.InFrame ↔ Mercator.IsEasting (Mercator.easting x - effectiveDistance distance) ∧
      Mercator.IsEasting (Mercator.easting x + effectiveDistance distance) := by
  obtain ⟨polygons, houtline, hspans⟩ := rounds (Mercator.project ⟨x, y⟩) _ (effectiveDistance_pos admitted)
  rw [bufferFeatures_point features point houtline buffered, inFrame_outline_iff, hspans.isEasting_iff]
  rfl

end PlanarOps

end Exactly

end AreaOfInterest
