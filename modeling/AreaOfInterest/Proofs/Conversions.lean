import AreaOfInterest.GeoJson.Convert
import Mathlib.Data.List.Forall2

/-!
# There and back

Shapes are written as geometries and read back, and they are put on the map and taken off it again. Neither way is
lossless for everything: reading drops further ordinates and closes rings, and writing turns boxes and triangles into
polygons. The plain shapes are the ones that reading a geometry gives. They come back from either way as they were.
So does a geometry that holds no more than a plain shape does.
-/

namespace AreaOfInterest

/-- Mapping a list by a function that keeps each member keeps the list. -/
theorem map_eq_self {β : Type} {f : β → β} {xs : List β} (h : ∀ x ∈ xs, f x = x) : xs.map f = xs :=
  (List.map_congr_left h).trans (List.map_id' xs)

/-- Two steps of reading succeed when the first does, and the second on its result. -/
theorem bind_eq_ok_iff {ε β γ : Type} {x : Except ε β} {f : β → Except ε γ} {c : γ} :
    x >>= f = .ok c ↔ ∃ b, x = .ok b ∧ f b = .ok c := by
  cases x with
  | error failure => simp [bind, Except.bind]
  | ok b => simp [bind, Except.bind]

/-- Several values are read when each of them is. -/
theorem mapM_eq_ok_iff {ε β γ : Type} {read : β → Except ε γ} {xs : List β} {ys : List γ} :
    xs.mapM read = .ok ys ↔ List.Forall₂ (fun x y => read x = .ok y) xs ys := by
  induction xs generalizing ys with
  | nil => simp [pure, Except.pure, eq_comm]
  | cons x xs ih =>
    simp only [List.mapM_cons, bind_eq_ok_iff, List.forall₂_cons_left_iff, ih, pure, Except.pure, Except.ok.injEq]
    constructor
    · rintro ⟨y, hy, rest, hrest, rfl⟩
      exact ⟨y, rest, hy, hrest, rfl⟩
    · rintro ⟨y, rest, hy, hrest, rfl⟩
      exact ⟨y, hy, rest, hrest, rfl⟩

/-- What was written value by value is read. -/
theorem mapM_map_eq_ok {ε β γ : Type} {read : β → Except ε γ} {write : γ → β} {ys : List γ}
    (h : ∀ y ∈ ys, read (write y) = .ok y) : (ys.map write).mapM read = .ok ys := by
  rw [mapM_eq_ok_iff, List.forall₂_map_left_iff, List.forall₂_same]
  exact h

/-- Values are read when each of them is, whatever as. -/
theorem exists_mapM_map_eq_ok {ε β γ δ : Type} {read : β → Except ε γ} {write : δ → β} {ys : List δ}
    (h : ∀ y ∈ ys, ∃ z, read (write y) = .ok z) : ∃ zs, (ys.map write).mapM read = .ok zs := by
  induction ys with
  | nil => exact ⟨[], rfl⟩
  | cons y rest ih =>
    obtain ⟨⟨z, hz⟩, hrest⟩ := List.forall_mem_cons.mp h
    obtain ⟨zs, hzs⟩ := ih hrest
    exact ⟨z :: zs, by rw [List.map_cons, mapM_eq_ok_iff]; exact .cons hz (mapM_eq_ok_iff.mp hzs)⟩

/-- What was read value by value is written again. -/
theorem map_of_mapM {ε β γ : Type} {read : β → Except ε γ} {write : γ → β} {xs : List β} {ys : List γ}
    (hread : xs.mapM read = .ok ys) (h : ∀ x ∈ xs, ∀ y, read x = .ok y → write y = x) : ys.map write = xs := by
  rw [mapM_eq_ok_iff] at hread
  induction hread with
  | nil => rfl
  | cons hy _ ih =>
    rw [List.map_cons, h _ List.mem_cons_self _ hy, ih fun x hx => h x (List.mem_cons_of_mem _ hx)]

/-- Whatever holds of each value that can be read holds of several. -/
theorem forall_of_mapM {ε β γ : Type} {read : β → Except ε γ} {P : γ → Prop} {xs : List β} {ys : List γ}
    (hread : xs.mapM read = .ok ys) (h : ∀ x y, read x = .ok y → P y) : ∀ y ∈ ys, P y := by
  rw [mapM_eq_ok_iff] at hread
  induction hread with
  | nil => simp
  | cons hy _ ih => exact List.forall_mem_cons.mpr ⟨h _ _ hy, ih⟩

deriving instance ReflBEq, LawfulBEq for Coord

variable {α : Type}

namespace Polyline

variable [BEq α] {path : Polyline α}

/-- A closed ring is closed as it is. -/
theorem close_of_isClosed (h : path.isClosed) : path.close = path := by simp [close, h]

/-- A ring that was closed is closed. -/
theorem isClosed_close [ReflBEq α] (path : Polyline α) : path.close.isClosed := by
  unfold close
  split
  · next h => exact h
  · cases path with
    | nil => rfl
    | cons c rest =>
      change (some c == (c :: rest ++ [c]).getLast?) = true
      rw [List.getLast?_concat, beq_self_eq_true]

/-- A closed ring stays closed under every function of its positions. -/
theorem isClosed_map [LawfulBEq α] (h : path.isClosed) (f : Coord α → Coord α) :
    Polyline.isClosed (path.map f) := by
  have hends : path.head? = path.getLast? := eq_of_beq h
  simp [isClosed, hends]

end Polyline

namespace Polygon

variable [BEq α] {p : Polygon α}

/-- Every ring of a polygon ends where it starts. -/
def Closed (p : Polygon α) : Prop := ∀ ring ∈ p.rings, Polyline.isClosed ring

/-- A polygon is closed when it is made. -/
theorem closed_ofRings [ReflBEq α] (exterior : Polyline α) (interiors : List (Polyline α)) :
    (ofRings exterior interiors).Closed := by
  refine List.forall_mem_cons.mpr ⟨Polyline.isClosed_close exterior, ?_⟩
  simp only [ofRings, List.forall_mem_map]
  exact fun ring _ => Polyline.isClosed_close ring

/-- Making a polygon of closed rings changes none of them. -/
theorem ofRings_of_closed {exterior : Polyline α} {interiors : List (Polyline α)}
    (h : (Polygon.mk exterior interiors).Closed) : ofRings exterior interiors = ⟨exterior, interiors⟩ := by
  obtain ⟨hexterior, hinteriors⟩ := List.forall_mem_cons.mp h
  rw [ofRings, Polyline.close_of_isClosed hexterior,
    map_eq_self fun ring hring => Polyline.close_of_isClosed (hinteriors ring hring)]

/-- The positions of a closed polygon are mapped ring by ring. -/
theorem map_of_closed [LawfulBEq α] (h : p.Closed) (f : Coord α → Coord α) :
    p.map f = ⟨p.exterior.map f, p.interiors.map (·.map f)⟩ := by
  refine ofRings_of_closed fun ring hring => ?_
  have hmem : ring ∈ p.rings.map (·.map f) := hring
  obtain ⟨original, horiginal, rfl⟩ := List.mem_map.mp hmem
  exact Polyline.isClosed_map (h original horiginal) f

/-- The image of a polygon is closed. -/
theorem closed_map [ReflBEq α] (p : Polygon α) (f : Coord α → Coord α) : (p.map f).Closed := closed_ofRings _ _

/-- Of a closed polygon the positions are mapped twice by mapping them once. -/
theorem map_map [LawfulBEq α] (h : p.Closed) (f g : Coord α → Coord α) : (p.map f).map g = p.map (g ∘ f) := by
  have hring : List.map g ∘ List.map f = List.map (g ∘ f) := funext fun ring => List.map_map
  rw [map_of_closed (p.closed_map f), map_of_closed h, map_of_closed h, List.map_map, List.map_map, hring]

/-- A closed polygon is kept by a function that keeps its positions. -/
theorem map_of_fixed [LawfulBEq α] (h : p.Closed) {f : Coord α → Coord α} (fixed : ∀ c ∈ p.rings.flatten, f c = c) :
    p.map f = p := by
  have hring (ring : Polyline α) (hmem : ring ∈ p.rings) : ring.map f = ring :=
    map_eq_self fun c hc => fixed c (List.mem_flatten.mpr ⟨ring, hmem, hc⟩)
  have hinteriors : p.interiors.map (·.map f) = p.interiors :=
    map_eq_self fun ring hmem => hring ring (List.mem_cons_of_mem _ hmem)
  rw [map_of_closed h, hring p.exterior List.mem_cons_self, hinteriors]

end Polygon

/-- The shapes that come from geometries: neither segments nor boxes nor triangles, with closed polygons. -/
inductive Shape.Plain [BEq α] : Shape α → Prop where
  | point (c : Coord α) : Plain (.point c)
  | polyline (path : Polyline α) : Plain (.polyline path)
  | polygon {p : Polygon α} (closed : p.Closed) : Plain (.polygon p)
  | multiPoint (points : List (Coord α)) : Plain (.multiPoint points)
  | multiPolyline (paths : List (Polyline α)) : Plain (.multiPolyline paths)
  | multiPolygon {polygons : List (Polygon α)} (closed : ∀ p ∈ polygons, p.Closed) : Plain (.multiPolygon polygons)
  | collection {members : List (Shape α)} (plain : ∀ m ∈ members, m.Plain) : Plain (.collection members)

/-- The rings of a polygon that are read and written without a change: pairs of ordinates, each ring closed. -/
structure Position.PlainRings [BEq α] (rings : List (List (Position α))) : Prop where
  nonempty : rings ≠ []
  pairs : ∀ ring ∈ rings, ∀ position ∈ ring, position.length = 2
  closed : ∀ ring ∈ rings, ring.head? == ring.getLast?

/-- The geometries that hold no more than a plain shape does. -/
inductive Geometry.Plain [BEq α] : Geometry α → Prop where
  | point {p : Position α} (pair : p.length = 2) : Plain (.point p)
  | multiPoint {ps : List (Position α)} (pairs : ∀ p ∈ ps, p.length = 2) : Plain (.multiPoint ps)
  | lineString {ps : List (Position α)} (pairs : ∀ p ∈ ps, p.length = 2) : Plain (.lineString ps)
  | multiLineString {ls : List (List (Position α))} (pairs : ∀ l ∈ ls, ∀ p ∈ l, p.length = 2) :
    Plain (.multiLineString ls)
  | polygon {rs : List (List (Position α))} (rings : Position.PlainRings rs) : Plain (.polygon rs)
  | multiPolygon {ps : List (List (List (Position α)))} (rings : ∀ rs ∈ ps, Position.PlainRings rs) :
    Plain (.multiPolygon ps)
  | collection {members : List (Geometry α)} (plain : ∀ g ∈ members, g.Plain) : Plain (.collection members)

namespace Position

/-- A pair of ordinates is written as it was read. -/
theorem toPosition_of_toCoord {p : Position α} {c : Coord α} (hread : p.toCoord = .ok c) (pair : p.length = 2) :
    c.toPosition = p := by
  obtain ⟨x, y, rfl⟩ := List.length_eq_two.mp pair
  cases hread
  rfl

/-- A written line is read as it was. -/
theorem toPolyline_toPositions (path : Polyline α) : toPolyline path.toPositions = .ok path :=
  mapM_map_eq_ok fun _ _ => rfl

/-- A line of pairs is written as it was read. -/
theorem toPositions_of_toPolyline {line : List (Position α)} {path : Polyline α} (hread : toPolyline line = .ok path)
    (pairs : ∀ p ∈ line, p.length = 2) : path.toPositions = line :=
  map_of_mapM hread fun p hp _ hc => toPosition_of_toCoord hc (pairs p hp)

variable [BEq α]

/-- A written ring ends where it starts exactly when the ring does. -/
theorem closed_toPositions (path : Polyline α) :
    (path.toPositions.head? == path.toPositions.getLast?) = path.isClosed := by
  have hpair (c d : Coord α) : (c.toPosition == d.toPosition) = (c == d) := by
    simp only [Coord.toPosition, List.cons_beq_cons, List.nil_beq_eq, List.isEmpty_nil, Bool.and_true]
    rfl
  rw [Polyline.toPositions, Polyline.isClosed, List.head?_map, List.getLast?_map]
  cases path.head? <;> cases path.getLast? <;> simp [hpair]

/-- A written polygon is read with its rings closed. -/
theorem toPolygon_toPositions_eq (p : Polygon α) :
    toPolygon p.toPositions = .ok (.ofRings p.exterior p.interiors) := by
  have hinteriors : (p.interiors.map Polyline.toPositions).mapM toPolyline = .ok p.interiors :=
    mapM_map_eq_ok fun ring _ => toPolyline_toPositions ring
  rw [Polygon.toPositions, Polygon.rings, List.map_cons, toPolygon, toPolyline_toPositions, hinteriors]
  rfl

/-- A written polygon with closed rings is read as it was. -/
theorem toPolygon_toPositions {p : Polygon α} (closed : p.Closed) : toPolygon p.toPositions = .ok p := by
  rw [toPolygon_toPositions_eq, Polygon.ofRings_of_closed closed]

/-- The rings of a polygon are read one by one, and closed. -/
theorem toPolygon_cons_eq_ok_iff {exterior : List (Position α)} {interiors : List (List (Position α))}
    {p : Polygon α} :
    toPolygon (exterior :: interiors) = .ok p ↔
      ∃ ring rings, toPolyline exterior = .ok ring ∧ interiors.mapM toPolyline = .ok rings ∧
        p = .ofRings ring rings := by
  simp only [toPolygon, bind_eq_ok_iff, pure, Except.pure, Except.ok.injEq]
  constructor
  · rintro ⟨ring, hring, rings, hrings, rfl⟩
    exact ⟨ring, rings, hring, hrings, rfl⟩
  · rintro ⟨ring, rings, hring, hrings, rfl⟩
    exact ⟨ring, hring, rings, hrings, rfl⟩

/-- A polygon that is read is closed. -/
theorem closed_of_toPolygon [ReflBEq α] {rings : List (List (Position α))} {p : Polygon α}
    (hread : toPolygon rings = .ok p) : p.Closed := by
  cases rings with
  | nil =>
    cases hread
    exact Polygon.closed_ofRings [] []
  | cons exterior interiors =>
    obtain ⟨ring, rings, -, -, rfl⟩ := toPolygon_cons_eq_ok_iff.mp hread
    exact Polygon.closed_ofRings ring rings

/-- A polygon with plain rings is written as it was read. -/
theorem toPositions_of_toPolygon {rings : List (List (Position α))} {p : Polygon α}
    (hread : toPolygon rings = .ok p) (plain : PlainRings rings) : p.toPositions = rings := by
  obtain _ | ⟨exterior, interiors⟩ := rings
  · exact absurd rfl plain.nonempty
  obtain ⟨ring, rest, hring, hrest, rfl⟩ := toPolygon_cons_eq_ok_iff.mp hread
  have hlines : (exterior :: interiors).mapM toPolyline = .ok (ring :: rest) :=
    mapM_eq_ok_iff.mpr (.cons hring (mapM_eq_ok_iff.mp hrest))
  have hwritten : (ring :: rest).map Polyline.toPositions = exterior :: interiors :=
    map_of_mapM hlines fun line hline _ hpath => toPositions_of_toPolyline hpath (plain.pairs line hline)
  have hclosed : (Polygon.mk ring rest).Closed := fun path hpath => by
    rw [← closed_toPositions]
    exact plain.closed _ (hwritten ▸ List.mem_map_of_mem hpath)
  rw [Polygon.ofRings_of_closed hclosed]
  exact hwritten

end Position

section Reading

variable [BEq α]

/-- Several shapes are written one by one. -/
theorem Geometry.eachOfShape_eq_map (shapes : List (Shape α)) : eachOfShape shapes = shapes.map ofShape := by
  induction shapes with
  | nil => rfl
  | cons s rest ih => rw [eachOfShape, ih, List.map_cons]

/-- Several geometries are read one by one. -/
theorem Geometry.eachToShape_eq_mapM (gs : List (Geometry α)) : eachToShape gs = gs.mapM toShape := by
  induction gs with
  | nil => rfl
  | cons g rest ih =>
    rw [eachToShape, ih, List.mapM_cons]

/-- A plain shape is read as it was written. -/
theorem Shape.Plain.toShape_ofShape {s : Shape α} (plain : s.Plain) : (Geometry.ofShape s).toShape = .ok s := by
  induction plain with
  | point c => rfl
  | polyline path =>
    rw [Geometry.ofShape, Geometry.toShape, Position.toPolyline_toPositions]
    rfl
  | polygon closed =>
    rw [Geometry.ofShape, Geometry.toShape, Position.toPolygon_toPositions closed]
    rfl
  | multiPoint points =>
    have hread : Position.toPolyline (points.map Coord.toPosition) = .ok points :=
      Position.toPolyline_toPositions points
    rw [Geometry.ofShape, Geometry.toShape, hread]
    rfl
  | multiPolyline paths =>
    rw [Geometry.ofShape, Geometry.toShape, mapM_map_eq_ok fun path _ => Position.toPolyline_toPositions path]
    rfl
  | multiPolygon closed =>
    rw [Geometry.ofShape, Geometry.toShape, mapM_map_eq_ok fun p hp => Position.toPolygon_toPositions (closed p hp)]
    rfl
  | collection _ ih =>
    rw [Geometry.ofShape, Geometry.toShape, Geometry.eachOfShape_eq_map, Geometry.eachToShape_eq_mapM,
      mapM_map_eq_ok ih]
    rfl

mutual

/-- Every shape is written as a geometry that can be read. -/
theorem Geometry.exists_toShape_ofShape : ∀ s : Shape α, ∃ s', (ofShape s).toShape = .ok s'
  | .point c => ⟨.point c, rfl⟩
  | .line a b => ⟨.polyline [a, b], rfl⟩
  | .polyline path => ⟨.polyline path, bind_eq_ok_iff.mpr ⟨path, Position.toPolyline_toPositions path, rfl⟩⟩
  | .polygon p => ⟨_, bind_eq_ok_iff.mpr ⟨_, Position.toPolygon_toPositions_eq p, rfl⟩⟩
  | .multiPoint points =>
    ⟨.multiPoint points, bind_eq_ok_iff.mpr ⟨points, Position.toPolyline_toPositions points, rfl⟩⟩
  | .multiPolyline paths =>
    ⟨.multiPolyline paths, bind_eq_ok_iff.mpr
      ⟨paths, mapM_map_eq_ok fun path _ => Position.toPolyline_toPositions path, rfl⟩⟩
  | .multiPolygon polygons => by
    have hread : ∀ p ∈ polygons, ∃ q, Position.toPolygon (Polygon.toPositions p) = .ok q :=
      fun p _ => ⟨_, Position.toPolygon_toPositions_eq p⟩
    obtain ⟨ps, hps⟩ := exists_mapM_map_eq_ok hread
    exact ⟨.multiPolygon ps, bind_eq_ok_iff.mpr ⟨ps, hps, rfl⟩⟩
  | .rect lower upper => ⟨_, bind_eq_ok_iff.mpr ⟨_, Position.toPolygon_toPositions_eq _, rfl⟩⟩
  | .triangle a b c => ⟨_, bind_eq_ok_iff.mpr ⟨_, Position.toPolygon_toPositions_eq _, rfl⟩⟩
  | .collection members => by
    obtain ⟨shapes, hshapes⟩ := exists_eachToShape_eachOfShape members
    exact ⟨.collection shapes, bind_eq_ok_iff.mpr ⟨shapes, hshapes, rfl⟩⟩

/-- Several shapes are written as geometries that can be read. -/
theorem Geometry.exists_eachToShape_eachOfShape :
    ∀ shapes : List (Shape α), ∃ shapes', eachToShape (eachOfShape shapes) = .ok shapes'
  | [] => ⟨[], rfl⟩
  | s :: rest => by
    obtain ⟨s', hs⟩ := exists_toShape_ofShape s
    obtain ⟨rest', hrest⟩ := exists_eachToShape_eachOfShape rest
    exact ⟨s' :: rest', bind_eq_ok_iff.mpr ⟨s', hs, bind_eq_ok_iff.mpr ⟨rest', hrest, rfl⟩⟩⟩

end

/-- A plain geometry is written as it was read. -/
theorem Geometry.Plain.ofShape_of_toShape {g : Geometry α} (plain : g.Plain) {s : Shape α}
    (hread : g.toShape = .ok s) : ofShape s = g := by
  induction plain generalizing s with
  | point pair =>
    obtain ⟨c, hc, hs⟩ := bind_eq_ok_iff.mp hread
    cases hs
    rw [ofShape, Position.toPosition_of_toCoord hc pair]
  | multiPoint pairs =>
    obtain ⟨path, hpath, hs⟩ := bind_eq_ok_iff.mp hread
    cases hs
    exact congrArg Geometry.multiPoint (Position.toPositions_of_toPolyline hpath pairs)
  | lineString pairs =>
    obtain ⟨path, hpath, hs⟩ := bind_eq_ok_iff.mp hread
    cases hs
    exact congrArg Geometry.lineString (Position.toPositions_of_toPolyline hpath pairs)
  | multiLineString pairs =>
    obtain ⟨paths, hpaths, hs⟩ := bind_eq_ok_iff.mp hread
    cases hs
    exact congrArg Geometry.multiLineString
      (map_of_mapM hpaths fun l hl _ hpath => Position.toPositions_of_toPolyline hpath (pairs l hl))
  | polygon rings =>
    obtain ⟨p, hp, hs⟩ := bind_eq_ok_iff.mp hread
    cases hs
    exact congrArg Geometry.polygon (Position.toPositions_of_toPolygon hp rings)
  | multiPolygon rings =>
    obtain ⟨polygons, hpolygons, hs⟩ := bind_eq_ok_iff.mp hread
    cases hs
    exact congrArg Geometry.multiPolygon
      (map_of_mapM hpolygons fun rs hrs _ hp => Position.toPositions_of_toPolygon hp (rings rs hrs))
  | collection _ ih =>
    obtain ⟨shapes, hshapes, hs⟩ := bind_eq_ok_iff.mp hread
    cases hs
    rw [eachToShape_eq_mapM] at hshapes
    rw [ofShape, eachOfShape_eq_map, map_of_mapM hshapes fun g hg _ hs => ih g hg hs]

mutual

/-- A shape that is read is plain. -/
theorem Geometry.plain_of_toShape [ReflBEq α] {s : Shape α} : ∀ {g : Geometry α}, g.toShape = .ok s → s.Plain
  | .point _, hread | .multiPoint _, hread | .lineString _, hread | .multiLineString _, hread => by
    obtain ⟨_, -, hs⟩ := bind_eq_ok_iff.mp hread
    cases hs
    constructor
  | .polygon _, hread => by
    obtain ⟨p, hp, hs⟩ := bind_eq_ok_iff.mp hread
    cases hs
    exact .polygon (Position.closed_of_toPolygon hp)
  | .multiPolygon _, hread => by
    obtain ⟨polygons, hpolygons, hs⟩ := bind_eq_ok_iff.mp hread
    cases hs
    exact .multiPolygon (forall_of_mapM hpolygons fun _ _ => Position.closed_of_toPolygon)
  | .collection _, hread => by
    obtain ⟨shapes, hshapes, hs⟩ := bind_eq_ok_iff.mp hread
    cases hs
    exact .collection (eachPlain_of_toShape hshapes)

/-- Shapes that are read are plain. -/
theorem Geometry.eachPlain_of_toShape [ReflBEq α] {shapes : List (Shape α)} :
    ∀ {gs : List (Geometry α)}, eachToShape gs = .ok shapes → ∀ s ∈ shapes, s.Plain
  | [], hread => by
    cases hread
    simp
  | _ :: _, hread => by
    obtain ⟨s, hs, hread⟩ := bind_eq_ok_iff.mp hread
    obtain ⟨rest, hrest, hread⟩ := bind_eq_ok_iff.mp hread
    cases hread
    exact List.forall_mem_cons.mpr ⟨plain_of_toShape hs, eachPlain_of_toShape hrest⟩

end

/-- A feature whose shape is known has a geometry that is read as that shape. -/
theorem Feature.toShape?_eq_some_iff {f : Feature α} {s : Shape α} :
    f.toShape? = some s ↔ ∃ g, f.geometry = some g ∧ g.toShape = .ok s := by
  have hread (g : Geometry α) : g.toShape? = some s ↔ g.toShape = .ok s := by
    unfold Geometry.toShape?
    cases g.toShape <;> simp [Except.toOption]
  simp only [Feature.toShape?, Option.bind_eq_some_iff, hread]

end Reading

section Mapping

variable [Scalar α]

/-- Several shapes are mapped one by one. -/
theorem Shape.mapEach_eq_map (f : Coord α → Coord α) (shapes : List (Shape α)) :
    mapEach f shapes = shapes.map (·.map f) := by
  induction shapes with
  | nil => rfl
  | cons s rest ih => rw [mapEach, ih, List.map_cons]

/-- The positions of several shapes are those of each in turn. -/
theorem Shape.coordsOfEach_eq_flatMap (shapes : List (Shape α)) : coordsOfEach shapes = shapes.flatMap coords := by
  induction shapes with
  | nil => rfl
  | cons s rest ih => rw [coordsOfEach, ih, List.flatMap_cons]

/-- The image of a plain shape is plain. -/
theorem Shape.Plain.map [ReflBEq α] {s : Shape α} (plain : s.Plain) (f : Coord α → Coord α) : (s.map f).Plain := by
  induction plain with
  | point | polyline | multiPoint | multiPolyline => constructor
  | @polygon p => exact .polygon (p.closed_map f)
  | multiPolygon =>
    refine .multiPolygon ?_
    rw [List.forall_mem_map]
    exact fun p _ => p.closed_map f
  | collection _ ih =>
    rw [Shape.map, Shape.mapEach_eq_map]
    refine .collection ?_
    rw [List.forall_mem_map]
    exact ih

/-- Of a plain shape the positions are mapped twice by mapping them once. -/
theorem Shape.Plain.map_map [LawfulBEq α] {s : Shape α} (plain : s.Plain) (f g : Coord α → Coord α) :
    (s.map f).map g = s.map (g ∘ f) := by
  have hline : List.map g ∘ List.map f = List.map (g ∘ f) := funext fun path => List.map_map
  induction plain with
  | point c => rfl
  | polyline path => exact congrArg Shape.polyline List.map_map
  | polygon closed => exact congrArg Shape.polygon (Polygon.map_map closed f g)
  | multiPoint points => exact congrArg Shape.multiPoint List.map_map
  | multiPolyline paths => rw [Shape.map, Shape.map, Shape.map, List.map_map, hline]
  | multiPolygon closed =>
    rw [Shape.map, Shape.map, Shape.map, List.map_map]
    exact congrArg Shape.multiPolygon (List.map_congr_left fun p hp => Polygon.map_map (closed p hp) f g)
  | collection _ ih =>
    rw [Shape.map, Shape.map, Shape.map, Shape.mapEach_eq_map, Shape.mapEach_eq_map, Shape.mapEach_eq_map,
      List.map_map]
    exact congrArg Shape.collection (List.map_congr_left ih)

/-- A plain shape is kept by a function that keeps its positions. -/
theorem Shape.Plain.map_of_fixed [LawfulBEq α] {s : Shape α} (plain : s.Plain) {f : Coord α → Coord α}
    (fixed : ∀ c ∈ s.coords, f c = c) : s.map f = s := by
  induction plain with
  | point c => exact congrArg Shape.point (fixed c List.mem_cons_self)
  | polyline path => exact congrArg Shape.polyline (map_eq_self fixed)
  | polygon closed => exact congrArg Shape.polygon (Polygon.map_of_fixed closed fixed)
  | multiPoint points => exact congrArg Shape.multiPoint (map_eq_self fixed)
  | multiPolyline paths =>
    refine congrArg Shape.multiPolyline (map_eq_self fun path hpath => map_eq_self fun c hc => fixed c ?_)
    exact List.mem_flatten.mpr ⟨path, hpath, hc⟩
  | multiPolygon closed =>
    refine congrArg Shape.multiPolygon (map_eq_self fun p hp => Polygon.map_of_fixed (closed p hp) fun c hc => ?_)
    exact fixed c (List.mem_flatMap.mpr ⟨p, hp, hc⟩)
  | collection _ ih =>
    rw [Shape.coords, Shape.coordsOfEach_eq_flatMap] at fixed
    rw [Shape.map, Shape.mapEach_eq_map]
    refine congrArg Shape.collection (map_eq_self fun m hm => ih m hm fun c hc => fixed c ?_)
    exact List.mem_flatMap.mpr ⟨m, hm, hc⟩

namespace Mercator

/-- Coming back from the map is exact up to its edges. -/
class Invertible (α : Type) [Scalar α] : Prop where
  unproject_project {c : Coord α} :
    -maxLatitude ≤ c.y → c.y ≤ maxLatitude → unproject (project c) = c

/-- Every position of a shape in degrees is on the map. -/
def Covers (s : Shape α) : Prop := ∀ c ∈ s.coords, -maxLatitude ≤ c.y ∧ c.y ≤ maxLatitude

instance (s : Shape α) : Decidable (Covers s) := inferInstanceAs (Decidable (∀ c ∈ s.coords, _))

/-- A plain shape on the map comes back from it as it was. -/
theorem unprojectShape_projectShape [LawfulBEq α] [Invertible α] {s : Shape α} (plain : s.Plain) (covers : Covers s) :
    unprojectShape (projectShape s) = s := by
  rw [unprojectShape, projectShape, plain.map_map]
  exact plain.map_of_fixed fun c hc => Invertible.unproject_project (covers c hc).1 (covers c hc).2

end Mercator

end Mapping

end AreaOfInterest
