import AreaOfInterest.Proofs.Conversions

/-!
# What comes back as it was

A shape is written as a geometry and read back, or a geometry is read and written again. The plain ones come back as
they were, nested as deeply as they may be, with holes, with polygons without points, and with collections without
members. No others do: what was read is plain, and a segment, a box, a triangle, an open ring, a third ordinate or a
polygon without rings can be found in nothing that was.
-/

namespace AreaOfInterest

variable {α : Type}

/-- What can be read value by value is read altogether. -/
theorem exists_mapM_eq_ok {ε β γ : Type} {read : β → Except ε γ} {xs : List β} (h : ∀ x ∈ xs, ∃ y, read x = .ok y) :
    ∃ ys, xs.mapM read = .ok ys := by
  have hread : ∃ ys, (xs.map id).mapM read = .ok ys := exists_mapM_map_eq_ok h
  rwa [List.map_id] at hread

namespace Position

/-- A pair of ordinates has coordinates. -/
theorem exists_toCoord {p : Position α} (pair : p.length = 2) : ∃ c, p.toCoord = .ok c := by
  obtain ⟨x, y, rfl⟩ := List.length_eq_two.mp pair
  exact ⟨⟨x, y⟩, rfl⟩

/-- A line of pairs can be read. -/
theorem exists_toPolyline {line : List (Position α)} (pairs : ∀ p ∈ line, p.length = 2) :
    ∃ path, toPolyline line = .ok path := exists_mapM_eq_ok fun p hp => exists_toCoord (pairs p hp)

/-- A polygon with plain rings can be read. -/
theorem exists_toPolygon [BEq α] {rings : List (List (Position α))} (plain : PlainRings rings) :
    ∃ p, toPolygon rings = .ok p := by
  obtain _ | ⟨exterior, interiors⟩ := rings
  · exact absurd rfl plain.nonempty
  obtain ⟨hexterior, hinteriors⟩ := List.forall_mem_cons.mp plain.pairs
  obtain ⟨ring, hring⟩ := exists_toPolyline hexterior
  obtain ⟨rest, hrest⟩ := exists_mapM_eq_ok fun line hline => exists_toPolyline (hinteriors line hline)
  exact ⟨_, toPolygon_cons_eq_ok_iff.mpr ⟨ring, rest, hring, hrest, rfl⟩⟩

/-- A written line consists of pairs. -/
theorem length_of_mem_toPositions (path : Polyline α) : ∀ p ∈ path.toPositions, p.length = 2 := by
  intro p hp
  obtain ⟨c, -, rfl⟩ := List.mem_map.mp hp
  rfl

/-- A closed polygon is written with plain rings. -/
theorem plainRings_toPositions [BEq α] {p : Polygon α} (closed : p.Closed) : PlainRings p.toPositions where
  nonempty := List.cons_ne_nil _ _
  pairs ring hring := by
    obtain ⟨path, -, rfl⟩ := List.mem_map.mp hring
    exact length_of_mem_toPositions path
  closed ring hring := by
    obtain ⟨path, hpath, rfl⟩ := List.mem_map.mp hring
    rw [closed_toPositions]
    exact closed path hpath

end Position

section Closing

variable [BEq α]

/-- A ring that closing leaves as it is was closed. -/
theorem Polyline.isClosed_of_close {path : Polyline α} (h : path.close = path) : path.isClosed := by
  refine Classical.byContradiction fun hopen => ?_
  rw [close, if_neg hopen, List.append_right_eq_self] at h
  cases path with
  | nil => exact hopen rfl
  | cons c rest => cases h

/-- A polygon that is made of its own rings without a change was closed. -/
theorem Polygon.closed_of_ofRings {p : Polygon α} (h : ofRings p.exterior p.interiors = p) : p.Closed := by
  obtain ⟨exterior, interiors⟩ := p
  obtain ⟨hexterior, hinteriors⟩ := Polygon.mk.inj h
  refine List.forall_mem_cons.mpr ⟨Polyline.isClosed_of_close hexterior, fun ring hring => ?_⟩
  have hsame : interiors.map Polyline.close = interiors.map id := hinteriors.trans (List.map_id interiors).symm
  exact Polyline.isClosed_of_close (List.map_inj_left.mp hsame ring hring)

end Closing

namespace Geometry

variable [BEq α]

/-- A plain geometry can be read. -/
theorem Plain.exists_toShape {g : Geometry α} (plain : g.Plain) : ∃ s, g.toShape = .ok s := by
  induction plain with
  | point pair =>
    obtain ⟨c, hc⟩ := Position.exists_toCoord pair
    exact ⟨_, bind_eq_ok_iff.mpr ⟨c, hc, rfl⟩⟩
  | multiPoint pairs | lineString pairs =>
    obtain ⟨path, hpath⟩ := Position.exists_toPolyline pairs
    exact ⟨_, bind_eq_ok_iff.mpr ⟨path, hpath, rfl⟩⟩
  | multiLineString pairs =>
    obtain ⟨paths, hpaths⟩ := exists_mapM_eq_ok fun l hl => Position.exists_toPolyline (pairs l hl)
    exact ⟨_, bind_eq_ok_iff.mpr ⟨paths, hpaths, rfl⟩⟩
  | polygon rings =>
    obtain ⟨p, hp⟩ := Position.exists_toPolygon rings
    exact ⟨_, bind_eq_ok_iff.mpr ⟨p, hp, rfl⟩⟩
  | multiPolygon rings =>
    obtain ⟨ps, hps⟩ := exists_mapM_eq_ok fun rs hrs => Position.exists_toPolygon (rings rs hrs)
    exact ⟨_, bind_eq_ok_iff.mpr ⟨ps, hps, rfl⟩⟩
  | collection _ ih =>
    obtain ⟨shapes, hshapes⟩ := exists_mapM_eq_ok ih
    exact ⟨_, bind_eq_ok_iff.mpr ⟨shapes, (eachToShape_eq_mapM _).trans hshapes, rfl⟩⟩

/-- A plain shape is written as a plain geometry. -/
theorem plain_ofShape {s : Shape α} (plain : s.Plain) : (ofShape s).Plain := by
  induction plain with
  | point c => exact .point rfl
  | polyline path => exact .lineString (Position.length_of_mem_toPositions path)
  | polygon closed => exact .polygon (Position.plainRings_toPositions closed)
  | multiPoint points => exact .multiPoint (Position.length_of_mem_toPositions points)
  | multiPolyline paths =>
    refine .multiLineString ?_
    rw [List.forall_mem_map]
    exact fun path _ => Position.length_of_mem_toPositions path
  | multiPolygon closed =>
    refine .multiPolygon ?_
    rw [List.forall_mem_map]
    exact fun p hp => Position.plainRings_toPositions (closed p hp)
  | collection _ ih =>
    rw [ofShape, eachOfShape_eq_map]
    refine .collection ?_
    rw [List.forall_mem_map]
    exact ih

mutual

/-- A shape that is read as it was written is plain. -/
theorem plain_of_toShape_ofShape : ∀ {s : Shape α}, (ofShape s).toShape = .ok s → s.Plain
  | .point c, _ => .point c
  | .polyline path, _ => .polyline path
  | .multiPoint points, _ => .multiPoint points
  | .multiPolyline paths, _ => .multiPolyline paths
  | .polygon p, hread => by
    obtain ⟨q, hq, hs⟩ := bind_eq_ok_iff.mp hread
    rw [Position.toPolygon_toPositions_eq] at hq
    cases hq
    exact .polygon (Polygon.closed_of_ofRings (Shape.polygon.inj (Except.ok.inj hs)))
  | .multiPolygon ps, hread => by
    obtain ⟨qs, hqs, hs⟩ := bind_eq_ok_iff.mp hread
    cases hs
    rw [mapM_eq_ok_iff, List.forall₂_map_left_iff, List.forall₂_same] at hqs
    refine .multiPolygon fun p hp => Polygon.closed_of_ofRings ?_
    have h := hqs p hp
    rw [Position.toPolygon_toPositions_eq] at h
    exact Except.ok.inj h
  | .collection members, hread => by
    obtain ⟨shapes, hshapes, hs⟩ := bind_eq_ok_iff.mp hread
    cases hs
    exact .collection (eachPlain_of_toShape_ofShape hshapes)
  | .line .., hread | .rect .., hread | .triangle .., hread => by
    obtain ⟨_, -, hs⟩ := bind_eq_ok_iff.mp hread
    cases hs

/-- Shapes that are read as they were written are plain. -/
theorem eachPlain_of_toShape_ofShape :
    ∀ {shapes : List (Shape α)}, eachToShape (eachOfShape shapes) = .ok shapes → ∀ s ∈ shapes, s.Plain
  | [], _ => List.forall_mem_nil _
  | s :: rest, hread => by
    obtain ⟨s', hs, hread⟩ := bind_eq_ok_iff.mp hread
    obtain ⟨rest', hrest, hread⟩ := bind_eq_ok_iff.mp hread
    cases hread
    exact List.forall_mem_cons.mpr ⟨plain_of_toShape_ofShape hs, eachPlain_of_toShape_ofShape hrest⟩

end

/-- Exactly the plain shapes are read as they were written. And exactly the plain geometries can be read and are then
written as they were. -/
theorem conversions_invert :
    (∀ s : Shape α, (ofShape s).toShape = .ok s ↔ s.Plain) ∧
      ∀ g : Geometry α, (∃ s, g.toShape = .ok s ∧ ofShape s = g) ↔ g.Plain := by
  refine ⟨fun s => ⟨plain_of_toShape_ofShape, Shape.Plain.toShape_ofShape⟩, fun g => ⟨?_, fun plain => ?_⟩⟩
  · rintro ⟨s, hread, rfl⟩
    exact plain_ofShape (plain_of_toShape_ofShape hread)
  · obtain ⟨s, hread⟩ := plain.exists_toShape
    exact ⟨s, hread, plain.ofShape_of_toShape hread⟩

end Geometry

end AreaOfInterest
