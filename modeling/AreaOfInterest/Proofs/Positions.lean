import AreaOfInterest.Proofs.Layers

/-!
# The positions of a collection

The numbers that a collection holds are the ordinates of its positions and the limits of its bounding boxes. They are
listed here, so that one can speak of all of them at once.

What is written for a shape has the positions of the shape. What is read of a geometry has no position of its own
either: closing a ring repeats one. So whatever holds of the positions of a collection holds of its shapes, and the
other way round for the collections that are made of shapes.
-/

namespace AreaOfInterest

/-- What is found in one of several values that were read is found in one of those that they were read from. -/
theorem exists_mem_flatMap_of_mapM {ε β γ δ ζ : Type} {read : β → Except ε γ} {parts : γ → List δ}
    {sources : β → List ζ} {R : ζ → δ → Prop} {xs : List β} {ys : List γ} (hread : xs.mapM read = .ok ys)
    (h : ∀ x y, read x = .ok y → ∀ d ∈ parts y, ∃ z ∈ sources x, R z d) :
    ∀ d ∈ ys.flatMap parts, ∃ z ∈ xs.flatMap sources, R z d := by
  rw [mapM_eq_ok_iff] at hread
  induction hread with
  | nil => simp
  | cons hy _ ih =>
    intro d hd
    rw [List.flatMap_cons, List.mem_append] at hd
    obtain hd | hd := hd
    · obtain ⟨z, hz, hR⟩ := h _ _ hy d hd
      exact ⟨z, List.mem_flatMap.mpr ⟨_, List.mem_cons_self, hz⟩, hR⟩
    · obtain ⟨z, hz, hR⟩ := ih d hd
      rw [List.flatMap_cons]
      exact ⟨z, List.mem_append_right _ hz, hR⟩

variable {α : Type}

mutual

/-- Every position of a geometry in order. -/
def Geometry.positions : Geometry α → List (Position α)
  | .point p => [p]
  | .multiPoint ps => ps
  | .lineString ps => ps
  | .multiLineString lines => lines.flatMap id
  | .polygon rings => rings.flatMap id
  | .multiPolygon polygons => polygons.flatMap (·.flatMap id)
  | .collection members => positionsOfEach members

/-- Every position of several geometries in order. -/
def Geometry.positionsOfEach : List (Geometry α) → List (Position α)
  | [] => []
  | g :: rest => positions g ++ positionsOfEach rest

end

namespace FeatureCollection

/-- Every position of a collection in order. -/
def positions (c : FeatureCollection α) : List (Position α) := c.geometries.flatMap Geometry.positions

/-- The bounding boxes that a collection comes with, its own and those of its features. -/
def boxes (c : FeatureCollection α) : List (List α) := c.bbox.toList ++ c.features.filterMap (·.bbox)

end FeatureCollection

/-- The coordinates of a position are its first two ordinates. -/
theorem Position.eq_of_toCoord {p : Position α} {c : Coord α} (hread : p.toCoord = .ok c) :
    ∃ further, p = c.x :: c.y :: further := by
  unfold toCoord at hread
  split at hread
  · next further =>
    cases hread
    exact ⟨further, rfl⟩
  · cases hread

/-- A point is written as no other is. -/
theorem Coord.toPosition_injective : Function.Injective (Coord.toPosition (α := α)) := by
  rintro ⟨x, y⟩ ⟨x', y'⟩ h
  cases h
  rfl

/-- Each point of a line that is read is one of its positions. -/
theorem Position.exists_of_mem_toPolyline {line : List (Position α)} {path : Polyline α}
    (hread : toPolyline line = .ok path) : ∀ c ∈ path, ∃ p ∈ line, p.toCoord = .ok c := by
  have hflat : ∀ c ∈ path.flatMap fun c => [c], ∃ p ∈ line.flatMap fun p => [p], p.toCoord = .ok c := by
    refine exists_mem_flatMap_of_mapM hread fun p c hc d hd => ?_
    rw [List.mem_singleton.mp hd]
    exact ⟨p, List.mem_singleton_self p, hc⟩
  simpa using hflat

/-- The rings of a polygon are written position by position. -/
theorem Polygon.flatMap_toPositions (p : Polygon α) :
    p.toPositions.flatMap id = p.rings.flatten.map Coord.toPosition := by
  rw [toPositions, List.flatMap_id, List.map_flatten]
  rfl

section Reading

variable [BEq α]

/-- Closing a line repeats one of its points at most. -/
theorem Polyline.mem_close {path : Polyline α} {c : Coord α} : c ∈ path.close ↔ c ∈ path := by
  unfold close
  split
  · rfl
  · rw [List.mem_append, or_iff_left_of_imp]
    exact fun h => List.mem_of_mem_head? (Option.mem_toList.mp h)

/-- A polygon has the points of the rings that it is made of. -/
theorem Polygon.mem_ofRings {exterior : Polyline α} {interiors : List (Polyline α)} {c : Coord α} :
    c ∈ (ofRings exterior interiors).rings.flatten ↔ c ∈ (exterior :: interiors).flatten := by
  have hrings : (ofRings exterior interiors).rings = (exterior :: interiors).map Polyline.close := rfl
  rw [hrings, List.mem_flatten, List.mem_flatten]
  simp only [List.mem_map, exists_exists_and_eq_and, Polyline.mem_close]

/-- The image of a polygon has the images of its points. -/
theorem Polygon.mem_rings_map {p : Polygon α} {f : Coord α → Coord α} {c : Coord α} :
    c ∈ (p.map f).rings.flatten ↔ ∃ d ∈ p.rings.flatten, f d = c := by
  rw [Polygon.map, mem_ofRings, ← List.map_cons (f := List.map f), ← List.map_flatten, List.mem_map]
  rfl

/-- Each point of a polygon that is read is a position of one of its rings. -/
theorem Position.exists_of_mem_toPolygon {rings : List (List (Position α))} {polygon : Polygon α}
    (hread : toPolygon rings = .ok polygon) :
    ∀ c ∈ polygon.rings.flatten, ∃ p ∈ rings.flatMap id, p.toCoord = .ok c := by
  cases rings with
  | nil =>
    cases hread
    simp [Polygon.ofRings, Polygon.rings, Polyline.close, Polyline.isClosed]
  | cons exterior interiors =>
    obtain ⟨ring, rest, hring, hrest, rfl⟩ := toPolygon_cons_eq_ok_iff.mp hread
    have hlines : (exterior :: interiors).mapM toPolyline = .ok (ring :: rest) :=
      mapM_eq_ok_iff.mpr (.cons hring (mapM_eq_ok_iff.mp hrest))
    intro c hc
    rw [Polygon.mem_ofRings, ← List.flatMap_id] at hc
    exact exists_mem_flatMap_of_mapM hlines (fun _ _ => exists_of_mem_toPolyline) c hc

mutual

/-- Each point of a shape that is read is one of the positions of its geometry. -/
theorem Geometry.exists_position_of_toShape {s : Shape α} :
    ∀ {g : Geometry α}, g.toShape = .ok s → ∀ c ∈ s.coords, ∃ p ∈ g.positions, p.toCoord = .ok c
  | .point p, hread => by
    obtain ⟨c, hc, hs⟩ := bind_eq_ok_iff.mp hread
    cases hs
    intro d hd
    rw [List.mem_singleton.mp hd]
    exact ⟨p, List.mem_singleton_self p, hc⟩
  | .multiPoint _, hread | .lineString _, hread => by
    obtain ⟨path, hpath, hs⟩ := bind_eq_ok_iff.mp hread
    cases hs
    exact Position.exists_of_mem_toPolyline hpath
  | .multiLineString _, hread => by
    obtain ⟨paths, hpaths, hs⟩ := bind_eq_ok_iff.mp hread
    cases hs
    rw [Shape.coords, ← List.flatMap_id]
    exact exists_mem_flatMap_of_mapM hpaths fun _ _ => Position.exists_of_mem_toPolyline
  | .polygon _, hread => by
    obtain ⟨p, hp, hs⟩ := bind_eq_ok_iff.mp hread
    cases hs
    exact Position.exists_of_mem_toPolygon hp
  | .multiPolygon _, hread => by
    obtain ⟨polygons, hpolygons, hs⟩ := bind_eq_ok_iff.mp hread
    cases hs
    exact exists_mem_flatMap_of_mapM hpolygons fun _ _ => Position.exists_of_mem_toPolygon
  | .collection _, hread => by
    obtain ⟨shapes, hshapes, hs⟩ := bind_eq_ok_iff.mp hread
    cases hs
    exact exists_position_of_eachToShape hshapes

/-- Each point of several shapes that are read is one of the positions of their geometries. -/
theorem Geometry.exists_position_of_eachToShape {shapes : List (Shape α)} :
    ∀ {gs : List (Geometry α)}, eachToShape gs = .ok shapes →
      ∀ c ∈ Shape.coordsOfEach shapes, ∃ p ∈ positionsOfEach gs, p.toCoord = .ok c
  | [], hread => by
    cases hread
    simp [Shape.coordsOfEach]
  | _ :: _, hread => by
    obtain ⟨s, hs, hread⟩ := bind_eq_ok_iff.mp hread
    obtain ⟨rest, hrest, hread⟩ := bind_eq_ok_iff.mp hread
    cases hread
    intro c hc
    rw [Shape.coordsOfEach, List.mem_append] at hc
    rw [positionsOfEach]
    obtain hc | hc := hc
    · obtain ⟨p, hp, hcoord⟩ := exists_position_of_toShape hs c hc
      exact ⟨p, List.mem_append_left _ hp, hcoord⟩
    · obtain ⟨p, hp, hcoord⟩ := exists_position_of_eachToShape hrest c hc
      exact ⟨p, List.mem_append_right _ hp, hcoord⟩

end

mutual

/-- The positions that are written for a shape are those of the shape. -/
theorem Geometry.positions_ofShape : ∀ s : Shape α, (ofShape s).positions = s.coords.map Coord.toPosition
  | .point _ | .line _ _ | .polyline _ | .multiPoint _ => rfl
  | .polygon p => p.flatMap_toPositions
  | .multiPolyline paths => by
    rw [ofShape, positions, Shape.coords, List.flatMap_id, List.map_flatten]
    rfl
  | .multiPolygon polygons => by
    rw [ofShape, positions, Shape.coords, List.flatMap_map, List.map_flatMap]
    exact List.flatMap_congr fun p _ => p.flatMap_toPositions
  | .rect lower upper => by
    rw [ofShape, positions, Polygon.flatMap_toPositions]
    simp [Shape.coords, Shape.rectPolygon, Polygon.ofRings, Polygon.rings]
  | .triangle a b c => by
    rw [ofShape, positions, Polygon.flatMap_toPositions]
    simp [Shape.coords, Shape.trianglePolygon, Polygon.ofRings, Polygon.rings]
  | .collection members => positionsOfEach_eachOfShape members

/-- The positions that are written for several shapes are those of the shapes. -/
theorem Geometry.positionsOfEach_eachOfShape : ∀ shapes : List (Shape α),
    positionsOfEach (eachOfShape shapes) = (Shape.coordsOfEach shapes).map Coord.toPosition
  | [] => rfl
  | s :: rest => by
    rw [eachOfShape, positionsOfEach, positions_ofShape s, positionsOfEach_eachOfShape rest, Shape.coordsOfEach,
      List.map_append]

end

end Reading

variable [Scalar α]

/-- The positions of a closed polygon are mapped one by one. -/
theorem Polygon.flatten_rings_map [LawfulBEq α] {p : Polygon α} (closed : p.Closed) (f : Coord α → Coord α) :
    (p.map f).rings.flatten = p.rings.flatten.map f := by
  rw [map_of_closed closed, List.map_flatten]
  rfl

/-- The positions of a plain shape are mapped one by one. -/
theorem Shape.Plain.coords_map [LawfulBEq α] {s : Shape α} (plain : s.Plain) (f : Coord α → Coord α) :
    (s.map f).coords = s.coords.map f := by
  induction plain with
  | point | polyline | multiPoint => rfl
  | polygon closed => exact Polygon.flatten_rings_map closed f
  | multiPolyline paths =>
    rw [Shape.map, Shape.coords, Shape.coords, List.map_flatten]
  | multiPolygon closed =>
    rw [Shape.map, Shape.coords, Shape.coords, List.flatMap_map, List.map_flatMap]
    exact List.flatMap_congr fun p hp => Polygon.flatten_rings_map (closed p hp) f
  | collection _ ih =>
    rw [Shape.map, Shape.mapEach_eq_map, Shape.coords, Shape.coords, Shape.coordsOfEach_eq_flatMap,
      Shape.coordsOfEach_eq_flatMap, List.flatMap_map, List.map_flatMap]
    exact List.flatMap_congr ih

namespace FeatureCollection

/-- Each point of a shape of a collection is one of its positions. -/
theorem exists_position_of_mem_shapes {c : FeatureCollection α} {s : Shape α} (h : s ∈ c.shapes) :
    ∀ d ∈ s.coords, ∃ p ∈ c.positions, p.toCoord = .ok d := by
  obtain ⟨f, hf, hshape⟩ := List.mem_filterMap.mp h
  obtain ⟨g, hg, hread⟩ := Feature.toShape?_eq_some_iff.mp hshape
  intro d hd
  obtain ⟨p, hp, hcoord⟩ := Geometry.exists_position_of_toShape hread d hd
  exact ⟨p, List.mem_flatMap.mpr ⟨g, List.mem_filterMap.mpr ⟨f, hf, hg⟩, hp⟩, hcoord⟩

/-- A drawing is selected with the positions of its shape, in degrees and rounded. -/
theorem positions_ofProjected [LawfulBEq α] {s : Shape α} (plain : s.Plain) :
    (ofProjected s).positions =
      (s.coords.map fun d => Mercator.truncateCoord (Mercator.unproject d)).map Coord.toPosition := by
  have hgeometries : (ofProjected s).geometries =
      [Geometry.ofShape ((Mercator.unprojectShape s).map Mercator.truncateCoord)] := rfl
  rw [positions, hgeometries, List.flatMap_singleton, Geometry.positions_ofShape, Mercator.unprojectShape,
    (plain.map _).coords_map, plain.coords_map]
  exact congrArg _ List.map_map

/-- A drawing is selected with one bounding box, if it has an extent. -/
theorem boxes_ofProjected (s : Shape α) :
    (ofProjected s).boxes = ((Extent.ofShape? s).map Extent.serialize).toList := by
  cases h : Extent.ofShape? s <;> simp [boxes, ofProjected, single, ofFeatures, h]

end FeatureCollection

/-- A layer is selected with the positions of its shapes, in degrees. -/
theorem Editor.positions_geographic [LawfulBEq α] {layer : List (Shape α)} (plain : ∀ s ∈ layer, s.Plain) :
    (geographic layer).positions =
      (layer.flatMap fun s => s.coords.map Mercator.unproject).map Coord.toPosition := by
  have hgeometries : (geographic layer).geometries =
      layer.map fun s => Geometry.ofShape (Mercator.unprojectShape s) := by
    rw [FeatureCollection.geometries, geographic_features, List.filterMap_map]
    exact congrFun List.filterMap_eq_map layer
  rw [FeatureCollection.positions, hgeometries, List.flatMap_map, List.map_flatMap]
  refine List.flatMap_congr fun s hs => ?_
  rw [Geometry.positions_ofShape, Mercator.unprojectShape, (plain s hs).coords_map]

/-- A layer is selected without a bounding box. -/
theorem Editor.boxes_geographic (layer : List (Shape α)) : (geographic layer).boxes = [] := by
  have hbare : (geographic layer).features.filterMap (·.bbox) = [] := by
    rw [geographic_features, List.filterMap_map]
    exact List.filterMap_eq_nil_iff.mpr fun _ _ => rfl
  exact hbare

/-- A buffer is selected without a bounding box. -/
theorem PlanarOps.boxes_bufferFeatures {ops : PlanarOps α} {c w : FeatureCollection α} {distance : α}
    {alsoPolygons : Bool} (h : ops.bufferFeatures c distance alsoPolygons = .ok w) : w.boxes = [] := by
  unfold bufferFeatures at h
  split at h
  · cases h
  · split at h
    · cases h
    · cases h
      rfl

end AreaOfInterest
