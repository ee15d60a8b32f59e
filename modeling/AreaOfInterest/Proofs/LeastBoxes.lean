import AreaOfInterest.CommandLine.Report
import AreaOfInterest.Editor
import AreaOfInterest.Proofs.Boxes
import AreaOfInterest.Proofs.StoredBoxes

/-!
# Least boxes

The box around positions that are given by numbers has the ends of their two ranges for its limits, so it is the least
one that holds them all. Boxes are joined limit by limit, and the ranges with them. So it makes no difference how
positions are shared out among shapes, or in which order the boxes of these are joined: what comes out is the box around
all positions. Only a zero may come out as the other zero, which is the same number.

This is about doubles. The box of a shape leaves its holes out, so shapes with holes have to be kept out.
-/

namespace AreaOfInterest

/-- A value is one of two, and not above either. -/
structure IsLesser {α : Type} [LT α] (z x y : α) : Prop where
  one : z = x ∨ z = y
  left : ¬x < z
  right : ¬y < z

/-- A value is one of two, and not below either. -/
structure IsGreater {α : Type} [LT α] (z x y : α) : Prop where
  one : z = x ∨ z = y
  left : ¬z < x
  right : ¬z < y

section Choices

variable {α : Type} [Scalar α] [NumericOrder α] {x y : α}

/-- The one that is below the other is the lesser one. -/
theorem isLesser_ite (x y : α) : IsLesser (if x < y then x else y) x y := by
  split
  · next h => exact ⟨.inl rfl, NumericOrder.lt_irrefl x, NumericOrder.lt_asymm h⟩
  · next h => exact ⟨.inr rfl, h, NumericOrder.lt_irrefl y⟩

/-- The one that is above the other is the greater one. -/
theorem isGreater_ite (x y : α) : IsGreater (if x > y then x else y) x y := by
  split
  · next h => exact ⟨.inl rfl, NumericOrder.lt_irrefl x, NumericOrder.lt_asymm h⟩
  · next h => exact ⟨.inr rfl, h, NumericOrder.lt_irrefl y⟩

/-- Of two numbers the smaller one is the lesser one. -/
theorem isLesser_min (hx : x == x) (hy : y == y) : IsLesser (min x y) x y := by
  have h := isLesser_ite y x
  rw [NumericOrder.min_eq hx hy]
  exact ⟨h.one.symm, h.right, h.left⟩

/-- Of two numbers the larger one is the greater one. -/
theorem isGreater_max (hx : x == x) (hy : y == y) : IsGreater (max x y) x y := by
  have h := isGreater_ite y x
  rw [NumericOrder.max_eq hx hy]
  exact ⟨h.one.symm, h.right, h.left⟩

end Choices

variable {p : Platform}

/-- What is not above a number is not above what that number is not above. -/
theorem Double.not_lt_trans {x y z : Float} (number : y == y) (h : ¬y < x) (h' : ¬z < y) : ¬z < x := by
  intro hlt
  obtain ⟨hz, hx⟩ := Double.numbers_of_lt hlt
  rw [beq_self_iff] at number hx hz
  have hle := trans_le ((le_iff_not_lt hx number).mpr h) ((le_iff_not_lt number hz).mpr h')
  exact (le_iff_not_lt hx hz).mp hle hlt

/-- Two values in order are the range of a list of nothing else. -/
theorem isRangeOf_pair {lo hi : p.Number} {values : List p.Number} (ordered : ¬hi < lo) (lo_mem : lo ∈ values)
    (hi_mem : hi ∈ values) (pair : ∀ v ∈ values, v = lo ∨ v = hi) : IsRangeOf lo hi values := by
  refine ⟨lo_mem, hi_mem, fun hv => ?_⟩
  obtain rfl | rfl := pair _ hv
  · exact ⟨NumericOrder.lt_irrefl _, ordered⟩
  · exact ⟨ordered, NumericOrder.lt_irrefl _⟩

/-- The lesser one of two lower ends and the greater one of two upper ends are the ends of the joint range. -/
theorem IsRangeOf.append {lo hi lo' hi' least greatest : p.Number} {values values' : List p.Number}
    (h : IsRangeOf lo hi values) (h' : IsRangeOf lo' hi' values') (numbers : ∀ v ∈ values ++ values', v == v)
    (lesser : IsLesser least lo lo') (greater : IsGreater greatest hi hi') :
    IsRangeOf least greatest (values ++ values') where
  lo_mem := by
    obtain rfl | rfl := lesser.one
    · exact List.mem_append_left _ h.lo_mem
    · exact List.mem_append_right _ h'.lo_mem
  hi_mem := by
    obtain rfl | rfl := greater.one
    · exact List.mem_append_left _ h.hi_mem
    · exact List.mem_append_right _ h'.hi_mem
  bounds hv := by
    obtain hv | hv := List.mem_append.mp hv
    · have hlo := numbers lo (List.mem_append_left _ h.lo_mem)
      have hhi := numbers hi (List.mem_append_left _ h.hi_mem)
      exact ⟨Double.not_lt_trans hlo lesser.left (h.bounds hv).1, Double.not_lt_trans hhi (h.bounds hv).2 greater.left⟩
    · have hlo := numbers lo' (List.mem_append_right _ h'.lo_mem)
      have hhi := numbers hi' (List.mem_append_right _ h'.hi_mem)
      exact ⟨Double.not_lt_trans hlo lesser.right (h'.bounds hv).1,
        Double.not_lt_trans hhi (h'.bounds hv).2 greater.right⟩

namespace Extent

/-- An extent has the ends of the two ranges of positions for its limits. -/
structure Bounds (e : Extent p.Number) (coords : List (Coord p.Number)) : Prop where
  x : IsRangeOf e.minX e.maxX (coords.map (·.x))
  y : IsRangeOf e.minY e.maxY (coords.map (·.y))

/-- What is known of an extent that may be missing: it bounds the positions, of which there are none if it is. -/
inductive BoundsAny : Option (Extent p.Number) → List (Coord p.Number) → Prop where
  | none : BoundsAny none []
  | some {e : Extent p.Number} {coords : List (Coord p.Number)} (h : e.Bounds coords) : BoundsAny (some e) coords

variable {e f g : Extent p.Number} {a b : Option (Extent p.Number)} {coords coords' : List (Coord p.Number)}

/-- The coordinates of positions that are given by numbers are numbers on both axes. -/
theorem numbers_of_coords (numbers : ∀ c ∈ coords, c.IsNumber) :
    (∀ v ∈ coords.map (·.x), v == v) ∧ ∀ v ∈ coords.map (·.y), v == v :=
  ⟨List.forall_mem_map.mpr fun c hc => (numbers c hc).x, List.forall_mem_map.mpr fun c hc => (numbers c hc).y⟩

/-- Bounds depend on which positions there are. -/
theorem Bounds.congr (h : e.Bounds coords) (same : ∀ c, c ∈ coords' ↔ c ∈ coords) : e.Bounds coords' :=
  ⟨h.x.congr fun v => by simp [same], h.y.congr fun v => by simp [same]⟩

/-- One position is bounded by itself. -/
theorem bounds_ofCoord (c : Coord p.Number) : (ofCoord c).Bounds [c] := by
  have hself (v : p.Number) : IsRangeOf v v [v] :=
    isRangeOf_pair (NumericOrder.lt_irrefl v) (by simp) (by simp) (by simp)
  exact ⟨hself c.x, hself c.y⟩

/-- Bounds are joined limit by limit. -/
theorem Bounds.append (h : e.Bounds coords) (h' : f.Bounds coords') (numbers : ∀ c ∈ coords ++ coords', c.IsNumber)
    (minX : IsLesser g.minX e.minX f.minX) (minY : IsLesser g.minY e.minY f.minY)
    (maxX : IsGreater g.maxX e.maxX f.maxX) (maxY : IsGreater g.maxY e.maxY f.maxY) :
    g.Bounds (coords ++ coords') := by
  obtain ⟨hx, hy⟩ := numbers_of_coords numbers
  rw [List.map_append] at hx hy
  constructor <;> rw [List.map_append]
  · exact h.x.append h'.x hx minX maxX
  · exact h.y.append h'.y hy minY maxY

/-- The limits of an extent that bounds positions given by numbers are numbers. -/
theorem Bounds.numbers (h : e.Bounds coords) (numbers : ∀ c ∈ coords, c.IsNumber) :
    (e.minX == e.minX ∧ e.maxX == e.maxX) ∧ e.minY == e.minY ∧ e.maxY == e.maxY := by
  obtain ⟨hx, hy⟩ := numbers_of_coords numbers
  exact ⟨⟨hx _ h.x.lo_mem, hx _ h.x.hi_mem⟩, hy _ h.y.lo_mem, hy _ h.y.hi_mem⟩

/-- An extent that is grown to hold another one bounds what both of them bound. -/
theorem Bounds.extend (h : e.Bounds coords) (h' : f.Bounds coords') (numbers : ∀ c ∈ coords ++ coords', c.IsNumber) :
    (e.extend f).Bounds (coords ++ coords') := by
  obtain ⟨⟨hminX, hmaxX⟩, hminY, hmaxY⟩ := h.numbers fun c hc => numbers c (List.mem_append_left _ hc)
  obtain ⟨⟨hminX', hmaxX'⟩, hminY', hmaxY'⟩ := h'.numbers fun c hc => numbers c (List.mem_append_right _ hc)
  exact h.append h' numbers (isLesser_min hminX hminX') (isLesser_min hminY hminY') (isGreater_max hmaxX hmaxX')
    (isGreater_max hmaxY hmaxY')

/-- The cover of two extents bounds what both of them bound. -/
theorem Bounds.cover (h : e.Bounds coords) (h' : f.Bounds coords') (numbers : ∀ c ∈ coords ++ coords', c.IsNumber) :
    (e.cover f).Bounds (coords ++ coords') :=
  h.append h' numbers (isLesser_ite _ _) (isLesser_ite _ _) (isGreater_ite _ _) (isGreater_ite _ _)

/-- An extent is missing for no positions, or bounds them. -/
theorem BoundsAny.none_or_some (h : BoundsAny a coords) :
    (a = Option.none ∧ coords = []) ∨ ∃ e, a = Option.some e ∧ e.Bounds coords := by
  cases h with
  | none => exact .inl ⟨rfl, rfl⟩
  | some h => exact .inr ⟨_, rfl, h⟩

/-- Bounds of extents that may be missing depend on which positions there are. -/
theorem BoundsAny.congr (h : BoundsAny a coords) (same : ∀ c, c ∈ coords' ↔ c ∈ coords) : BoundsAny a coords' := by
  cases h with
  | none =>
    obtain rfl : coords' = [] := List.eq_nil_iff_forall_not_mem.mpr fun c hc => by cases (same c).mp hc
    exact .none
  | some h => exact .some (h.congr same)

/-- The cover of extents that may be missing bounds what they bound. -/
theorem BoundsAny.cover? (h : BoundsAny a coords) (h' : BoundsAny b coords')
    (numbers : ∀ c ∈ coords ++ coords', c.IsNumber) : BoundsAny (cover? a b) (coords ++ coords') := by
  cases h with
  | none => exact h'
  | some h =>
    cases h' with
    | none => exact .some (by rwa [List.append_nil])
    | some h' => exact .some (h.cover h' numbers)

/-- The bounding rectangle of positions bounds them. -/
theorem boundsAny_bounding? (coords : List (Coord p.Number)) : BoundsAny (bounding? coords) coords := by
  cases hbounding : bounding? coords with
  | none =>
    cases coords with
    | nil => exact .none
    | cons => cases hbounding
  | some e =>
    obtain ⟨hx, hy⟩ := isRangeOf_bounding? hbounding
    exact .some ⟨hx, hy⟩

end Extent

/-- A shape without holes. The corners of a rectangle are in order. -/
inductive Shape.HoleFree : Shape p.Number → Prop where
  | point (c : Coord p.Number) : HoleFree (.point c)
  | line (a b : Coord p.Number) : HoleFree (.line a b)
  | polyline (path : Polyline p.Number) : HoleFree (.polyline path)
  | polygon {polygon : Polygon p.Number} (none : polygon.interiors = []) : HoleFree (.polygon polygon)
  | multiPoint (points : List (Coord p.Number)) : HoleFree (.multiPoint points)
  | multiPolyline (paths : List (Polyline p.Number)) : HoleFree (.multiPolyline paths)
  | multiPolygon {polygons : List (Polygon p.Number)} (none : ∀ q ∈ polygons, q.interiors = []) :
    HoleFree (.multiPolygon polygons)
  | rect {lower upper : Coord p.Number} (x : ¬upper.x < lower.x) (y : ¬upper.y < lower.y) :
    HoleFree (.rect lower upper)
  | triangle (a b c : Coord p.Number) : HoleFree (.triangle a b c)
  | collection {members : List (Shape p.Number)} (each : ∀ s ∈ members, HoleFree s) : HoleFree (.collection members)

namespace Extent

variable {e : Extent p.Number} {a : Option (Extent p.Number)} {coords : List (Coord p.Number)}
  {shapes : List (Shape p.Number)}

/-- Growing the cover by the boxes of several shapes bounds their positions as well, if each box bounds those of its
shape. -/
theorem BoundsAny.ofEach? (h : BoundsAny a coords) (each : ∀ s ∈ shapes, BoundsAny (ofShape? s) s.coords)
    (numbers : ∀ c ∈ coords ++ shapes.flatMap Shape.coords, c.IsNumber) :
    BoundsAny (ofEach? a shapes) (coords ++ shapes.flatMap Shape.coords) := by
  induction shapes generalizing a coords with
  | nil => rwa [List.flatMap_nil, List.append_nil]
  | cons s rest ih =>
    obtain ⟨hs, hrest⟩ := List.forall_mem_cons.mp each
    rw [List.flatMap_cons, ← List.append_assoc] at numbers ⊢
    exact ih (h.cover? hs fun c hc => numbers c (List.mem_append_left _ hc)) hrest numbers

/-- The box of a shape without holes bounds its positions. -/
theorem boundsAny_ofShape? {s : Shape p.Number} (h : s.HoleFree) (numbers : ∀ c ∈ s.coords, c.IsNumber) :
    BoundsAny (ofShape? s) s.coords := by
  induction h with
  | point c => exact .some (bounds_ofCoord c)
  | line a b =>
    have hrange (v w : p.Number) :
        IsRangeOf (if v < w then (v, w) else (w, v)).1 (if v < w then (v, w) else (w, v)).2 [v, w] := by
      split
      · next h => exact isRangeOf_pair (NumericOrder.lt_asymm h) (by simp) (by simp) (by simp)
      · next h => exact isRangeOf_pair h (by simp) (by simp) (by simp [or_comm])
    exact .some ⟨hrange a.x b.x, hrange a.y b.y⟩
  | polyline path => exact boundsAny_bounding? path
  | polygon none =>
    rw [Shape.coords, Polygon.rings, none, List.flatten_cons, List.flatten_nil, List.append_nil]
    exact boundsAny_bounding? _
  | multiPoint points => exact boundsAny_bounding? points
  | multiPolyline paths => exact boundsAny_bounding? paths.flatten
  | @multiPolygon polygons none =>
    have hexteriors : polygons.flatMap (·.rings.flatten) = polygons.flatMap (·.exterior) := by
      refine List.flatMap_congr fun q hq => ?_
      rw [Polygon.rings, none q hq, List.flatten_cons, List.flatten_nil, List.append_nil]
    rw [Shape.coords, hexteriors]
    exact boundsAny_bounding? _
  | @rect lower upper x y =>
    have hring : BoundsAny (some ⟨lower.x, lower.y, upper.x, upper.y⟩)
        [⟨upper.x, lower.y⟩, upper, ⟨lower.x, upper.y⟩, lower, ⟨upper.x, lower.y⟩] :=
      .some ⟨isRangeOf_pair x (by simp) (by simp) (by simp [or_comm]), isRangeOf_pair y (by simp) (by simp) (by simp)⟩
    exact hring.congr fun c => Polyline.mem_close
  | triangle a b c =>
    refine (boundsAny_bounding? [a, b, c]).congr fun d => Polyline.mem_close.trans ?_
    simp only [List.mem_cons, List.not_mem_nil, or_false]
    tauto
  | @collection members each ih =>
    -- The members are covered one by one, starting with no box and no positions.
    rw [Shape.coords, Shape.coordsOfEach_eq_flatMap] at numbers ⊢
    refine BoundsAny.none.ofEach? (fun s hs => ih s hs fun c hc => ?_) numbers
    exact numbers c (List.mem_flatMap_of_mem hs hc)

/-- Growing a box by those of several shapes bounds their positions as well, if each box bounds those of its shape. -/
theorem Bounds.foldl_extend (h : e.Bounds coords) (each : ∀ s ∈ shapes, BoundsAny (ofShape? s) s.coords)
    (numbers : ∀ c ∈ coords ++ shapes.flatMap Shape.coords, c.IsNumber) :
    ((shapes.filterMap ofShape?).foldl Extent.extend e).Bounds (coords ++ shapes.flatMap Shape.coords) := by
  -- What the grown box bounds are the positions of the shapes before it; a shape without any adds no box.
  induction shapes generalizing e coords with
  | nil => rwa [List.flatMap_nil, List.append_nil]
  | cons s rest ih =>
    obtain ⟨hs, hrest⟩ := List.forall_mem_cons.mp each
    rw [List.flatMap_cons, ← List.append_assoc] at numbers ⊢
    obtain ⟨hbox, hcoords⟩ | ⟨f, hbox, hf⟩ := hs.none_or_some
    · rw [hcoords, List.append_nil] at numbers ⊢
      rw [List.filterMap_cons_none hbox]
      exact ih h hrest numbers
    · rw [List.filterMap_cons_some hbox, List.foldl_cons]
      exact ih (h.extend hf fun c hc => numbers c (List.mem_append_left _ hc)) hrest numbers

/-- The hull of the boxes of several shapes bounds their positions. -/
theorem boundsAny_hull? (each : ∀ s ∈ shapes, BoundsAny (ofShape? s) s.coords)
    (numbers : ∀ c ∈ shapes.flatMap Shape.coords, c.IsNumber) :
    BoundsAny (hull? (shapes.filterMap ofShape?)) (shapes.flatMap Shape.coords) := by
  induction shapes with
  | nil => exact .none
  | cons s rest ih =>
    obtain ⟨hs, hrest⟩ := List.forall_mem_cons.mp each
    rw [List.flatMap_cons] at numbers ⊢
    obtain ⟨hbox, hcoords⟩ | ⟨f, hbox, hf⟩ := hs.none_or_some
    · rw [hcoords, List.nil_append] at numbers ⊢
      rw [List.filterMap_cons_none hbox]
      exact ih hrest numbers
    · rw [List.filterMap_cons_some hbox]
      exact .some (hf.foldl_extend hrest numbers)

/-- The box around some positions is the hull of the boxes of so many points. -/
theorem ofCoords?_eq_hull? (coords : List (Coord p.Number)) :
    ofCoords? coords = hull? ((coords.map Shape.point).filterMap ofShape?) := by
  have hboxes (coords : List (Coord p.Number)) :
      (coords.map Shape.point).filterMap ofShape? = coords.map ofCoord := by
    rw [List.filterMap_map]
    exact congrFun (List.filterMap_eq_map' (f := ofCoord)) coords
  rw [hboxes]
  cases coords with
  | nil => rfl
  | cons c rest => exact congrArg some (List.foldl_map (f := ofCoord) (g := extend)).symm

/-- The box around some positions bounds them. -/
theorem boundsAny_ofCoords? (numbers : ∀ c ∈ coords, c.IsNumber) : BoundsAny (ofCoords? coords) coords := by
  have hpoints : (coords.map Shape.point).flatMap Shape.coords = coords := by
    simp [List.flatMap_map, Shape.coords]
  have hboxes : ∀ s ∈ coords.map Shape.point, BoundsAny (ofShape? s) s.coords :=
    List.forall_mem_map.mpr fun c _ => .some (bounds_ofCoord c)
  have hhull := boundsAny_hull? hboxes (by rwa [hpoints])
  rwa [← ofCoords?_eq_hull?, hpoints] at hhull

/-- A position lies within the limits of an extent. -/
def Holds (e : Extent p.Number) (c : Coord p.Number) : Prop :=
  (e.minX ≤ c.x ∧ c.x ≤ e.maxX) ∧ e.minY ≤ c.y ∧ c.y ≤ e.maxY

/-- An extent lies within the limits of another one. -/
def LiesIn (e f : Extent p.Number) : Prop :=
  (f.minX ≤ e.minX ∧ e.maxX ≤ f.maxX) ∧ f.minY ≤ e.minY ∧ e.maxY ≤ f.maxY

/-- An extent holds some positions, and lies in all others that hold them. -/
structure IsLeastAround (e : Extent p.Number) (coords : List (Coord p.Number)) : Prop where
  holds : ∀ c ∈ coords, e.Holds c
  least : ∀ f : Extent p.Number, (∀ c ∈ coords, f.Holds c) → e.LiesIn f

/-- An extent that bounds positions given by numbers is the least one around them. -/
theorem Bounds.isLeastAround (h : e.Bounds coords) (numbers : ∀ c ∈ coords, c.IsNumber) : e.IsLeastAround coords := by
  obtain ⟨⟨hminX, hmaxX⟩, hminY, hmaxY⟩ := h.numbers numbers
  have hle {x y : p.Number} (hx : x == x) (hy : y == y) (hnot : ¬y < x) : x ≤ y :=
    (Double.le_iff_not_lt (Double.beq_self_iff.mp hx) (Double.beq_self_iff.mp hy)).mpr hnot
  constructor
  · intro c hc
    obtain ⟨hx, hx'⟩ := h.x.bounds (List.mem_map_of_mem hc)
    obtain ⟨hy, hy'⟩ := h.y.bounds (List.mem_map_of_mem hc)
    have hnumber := numbers c hc
    exact ⟨⟨hle hminX hnumber.x hx, hle hnumber.x hmaxX hx'⟩, hle hminY hnumber.y hy, hle hnumber.y hmaxY hy'⟩
  · intro f holds
    obtain ⟨west, hwest, hminX⟩ := List.mem_map.mp h.x.lo_mem
    obtain ⟨east, heast, hmaxX⟩ := List.mem_map.mp h.x.hi_mem
    obtain ⟨south, hsouth, hminY⟩ := List.mem_map.mp h.y.lo_mem
    obtain ⟨north, hnorth, hmaxY⟩ := List.mem_map.mp h.y.hi_mem
    rw [LiesIn, ← hminX, ← hmaxX, ← hminY, ← hmaxY]
    exact ⟨⟨(holds west hwest).1.1, (holds east heast).1.2⟩, (holds south hsouth).2.1, (holds north hnorth).2.2⟩

/-- Extents that lie in each other are equal. -/
theorem LiesIn.beq {e f : Extent p.Number} (h : e.LiesIn f) (h' : f.LiesIn e) : e == f := by
  obtain ⟨⟨hminX, hmaxX⟩, hminY, hmaxY⟩ := h
  obtain ⟨⟨hminX', hmaxX'⟩, hminY', hmaxY'⟩ := h'
  cases e
  cases f
  change (_ && (_ && (_ && _))) = true
  simp only [Bool.and_eq_true]
  exact ⟨Double.beq_of_le_of_le hminX' hminX, Double.beq_of_le_of_le hminY' hminY,
    Double.beq_of_le_of_le hmaxX hmaxX', Double.beq_of_le_of_le hmaxY hmaxY'⟩

/-- Positions have one least extent around them at most. -/
theorem IsLeastAround.beq {e f : Extent p.Number} (h : e.IsLeastAround coords) (h' : f.IsLeastAround coords) : e == f :=
  (h.least f h'.holds).beq (h'.least e h.holds)

end Extent

/-- Several shapes on the layer are shown by fitting the view to their hull. -/
theorem Editor.zoomToSelection_of_hull? {e : Editor p.Number} {hull : Extent p.Number} (several : 1 < e.layer.length)
    (h : Extent.hull? (e.layer.filterMap Extent.ofShape?) = some hull) :
    e.zoomToSelection = { e with viewport := e.viewport.fitExtent hull } := by
  unfold zoomToSelection
  split
  · next hlayer => simp [hlayer] at several
  · next hlayer => simp [hlayer] at several
  · rw [h]

/-- The extent of a collection that can be read is the hull of its shapes on the map. -/
theorem FeatureCollection.projectedExtent_of_hull? {c : FeatureCollection p.Number} {shapes : List (Shape p.Number)}
    {hull : Extent p.Number} (read : c.geometries.mapM Geometry.toShape = .ok shapes)
    (h : Extent.hull? ((shapes.map Mercator.projectShape).filterMap Extent.ofShape?) = some hull) :
    c.projectedExtent = .ok (some hull) := by
  rw [List.filterMap_map] at h
  rw [projectedExtent, read]
  exact congrArg Except.ok h

namespace Extent

/-- The box around some positions is the least one that holds them all. And however the positions are shared out among
shapes without holes, in whichever order and with however many shapes that have none, the hull of the boxes of these
shapes is that same box. It is what the view is fitted to when the shapes are on the layer, what the centre of the
selection is the centre of, and the extent of a collection on the map. -/
theorem ofCoords?_is_hull_of_parts {coords : List (Coord p.Number)} (present : coords ≠ [])
    (numbers : ∀ c ∈ coords, c.IsNumber) :
    ∃ box, ofCoords? coords = some box ∧ box.IsLeastAround coords ∧
      ∀ shapes : List (Shape p.Number), (∀ s ∈ shapes, s.HoleFree) →
        (∀ c, c ∈ shapes.flatMap Shape.coords ↔ c ∈ coords) →
        ∃ hull, hull? (shapes.filterMap ofShape?) = some hull ∧ hull == box ∧ hull.IsLeastAround coords ∧
          (∀ e : Editor p.Number, e.layer = shapes → 1 < shapes.length →
            e.zoomToSelection = { e with viewport := e.viewport.fitExtent hull }) ∧
          (∀ (e : Editor p.Number) (c : FeatureCollection p.Number), e.working = some c →
            c.geometries.filterMap Geometry.toShape? = shapes → e.selectionCenter? = some hull.center) ∧
          ∀ (c : FeatureCollection p.Number) (unprojected : List (Shape p.Number)),
            c.geometries.mapM Geometry.toShape = .ok unprojected → unprojected.map Mercator.projectShape = shapes →
              c.projectedExtent = .ok (some hull) := by
  obtain ⟨hbox, hnone⟩ | ⟨box, hbox, hbounds⟩ := (boundsAny_ofCoords? numbers).none_or_some
  · exact absurd hnone present
  have hleast := hbounds.isLeastAround numbers
  refine ⟨box, hbox, hleast, fun shapes holeFree same => ?_⟩
  have hnumbers : ∀ c ∈ shapes.flatMap Shape.coords, c.IsNumber := fun c hc => numbers c ((same c).mp hc)
  have hboxes : ∀ s ∈ shapes, BoundsAny (ofShape? s) s.coords := fun s hs =>
    boundsAny_ofShape? (holeFree s hs) fun c hc => hnumbers c (List.mem_flatMap_of_mem hs hc)
  have hparts := (boundsAny_hull? hboxes hnumbers).congr fun c => (same c).symm
  obtain ⟨hhull, hnone⟩ | ⟨hull, hhull, hbounds'⟩ := hparts.none_or_some
  · exact absurd hnone present
  have hleast' := hbounds'.isLeastAround numbers
  refine ⟨hull, hhull, hleast'.beq hleast, hleast', ?_, ?_, ?_⟩
  · rintro e rfl several
    exact Editor.zoomToSelection_of_hull? several hhull
  · rintro e c working rfl
    rw [Editor.selectionCenter?, working, Option.bind_some, hhull, Option.map_some]
  · rintro c unprojected read rfl
    exact FeatureCollection.projectedExtent_of_hull? read hhull

/-- Three positions. -/
def threePositions : List (Coord Platform.native.Number) := [⟨0.0, 5.0⟩, ⟨10.0, 0.0⟩, ⟨-5.0, 10.0⟩]

/-- The three positions, shared out among a point, nothing and a line. -/
def threeParts : List (Shape Platform.native.Number) :=
  [.point ⟨-5.0, 10.0⟩, .multiPoint [], .line ⟨10.0, 0.0⟩ ⟨0.0, 5.0⟩]

/-- The box around the three positions is the hull of the boxes of their parts. -/
theorem ofCoords?_is_hull_of_threeParts :
    threePositions ≠ [] ∧ (∀ c ∈ threePositions, c.IsNumber) ∧
      ∃ box hull, ofCoords? threePositions = some box ∧ hull? (threeParts.filterMap ofShape?) = some hull ∧
        hull == box := by
  have numbers : ∀ c ∈ threePositions, c.IsNumber := by
    have hall : threePositions.all (fun c => c.x == c.x && c.y == c.y) = true := by decide +kernel
    intro c hc
    obtain ⟨hx, hy⟩ := Bool.and_eq_true_iff.mp (List.all_eq_true.mp hall c hc)
    exact ⟨hx, hy⟩
  have holeFree : ∀ s ∈ threeParts, s.HoleFree := by
    simp only [threeParts, List.forall_mem_cons]
    exact ⟨.point _, .multiPoint _, .line _ _, nofun⟩
  have same (c : Coord Platform.native.Number) : c ∈ threeParts.flatMap Shape.coords ↔ c ∈ threePositions := by
    simp only [threeParts, threePositions, List.flatMap_cons, List.flatMap_nil, Shape.coords, List.mem_append,
      List.mem_cons, List.not_mem_nil, or_false]
    tauto
  obtain ⟨box, hbox, -, hparts⟩ := ofCoords?_is_hull_of_parts (List.cons_ne_nil _ _) numbers
  obtain ⟨hull, hhull, hsame, -⟩ := hparts threeParts holeFree same
  exact ⟨List.cons_ne_nil _ _, numbers, box, hull, hbox, hhull, hsame⟩

end Extent

end AreaOfInterest
