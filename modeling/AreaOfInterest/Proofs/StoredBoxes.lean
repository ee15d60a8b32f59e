import AreaOfInterest.Proofs.Longitudes
import AreaOfInterest.Proofs.Platforms
import AreaOfInterest.Drawing.Controller

/-!
# Stored boxes

A drawing is stored with its ring and with its bounding box, which reach the store in different ways. The ring is
converted to degrees and rounded point by point. The box is found on the map; its limits are converted, kept within one
turn and rounded afterwards. As each of these steps keeps the order of numbers, both ways have the same outcome.

This is about doubles, on any platform that rounds to whole numbers as it should and has its latitudes in order. The
longitudes are in order on all of them. The right edge of the world is hardly more than half a turn away there, and the
left one as well, which five places do not show.
-/

namespace AreaOfInterest

/-- Two of some values have none below the first or above the second: the least and the greatest one. What is not a
number is neither. -/
structure IsRangeOf {α : Type} [LT α] (lo hi : α) (values : List α) : Prop where
  lo_mem : lo ∈ values
  hi_mem : hi ∈ values
  bounds {v : α} (hv : v ∈ values) : ¬v < lo ∧ ¬hi < v

variable {p : Platform}

/-- Functions that keep the order send ranges to ranges. -/
theorem IsRangeOf.map {lo hi : p.Number} {values : List p.Number} (h : IsRangeOf lo hi values) {f : p.Number → p.Number}
    (hf : Double.IsMonotone f) : IsRangeOf (f lo) (f hi) (values.map f) where
  lo_mem := List.mem_map_of_mem h.lo_mem
  hi_mem := List.mem_map_of_mem h.hi_mem
  bounds hv := by
    obtain ⟨u, hu, rfl⟩ := List.mem_map.mp hv
    exact ⟨hf.not_lt (h.bounds hu).1, hf.not_lt (h.bounds hu).2⟩

/-- A range depends on which values there are. -/
theorem IsRangeOf.congr {α : Type} [LT α] {lo hi : α} {values values' : List α} (h : IsRangeOf lo hi values)
    (same : ∀ v, v ∈ values' ↔ v ∈ values) : IsRangeOf lo hi values' :=
  ⟨(same lo).mpr h.lo_mem, (same hi).mpr h.hi_mem, fun hv => h.bounds ((same _).mp hv)⟩

namespace Extent

/-- A running minimum and maximum, in order, with nothing seen so far below or above. -/
structure Encloses (range : p.Number × p.Number) (seen : List p.Number) : Prop where
  ordered : ¬range.2 < range.1
  bounds {v : p.Number} (hv : v ∈ seen) : ¬v < range.1 ∧ ¬range.2 < v

/-- One more value is enclosed by the widened range. -/
theorem Encloses.widenRange {range : p.Number × p.Number} {seen : List p.Number} (h : Encloses range seen)
    (v : p.Number) : Encloses (widenRange range v) (v :: seen) := by
  have hself : ¬v < v := NumericOrder.lt_irrefl v
  unfold Extent.widenRange
  split
  · next habove =>
    have hnot : ¬v < range.1 := fun hlt => h.ordered (Double.trans_lt habove hlt)
    refine ⟨hnot, fun hu => ?_⟩
    obtain rfl | hu := List.mem_cons.mp hu
    · exact ⟨hnot, hself⟩
    · exact ⟨(h.bounds hu).1, fun hlt => (h.bounds hu).2 (Double.trans_lt habove hlt)⟩
  · next habove =>
    split
    · next hbelow =>
      refine ⟨habove, fun hu => ?_⟩
      obtain rfl | hu := List.mem_cons.mp hu
      · exact ⟨hself, habove⟩
      · exact ⟨fun hlt => (h.bounds hu).1 (Double.trans_lt hlt hbelow), (h.bounds hu).2⟩
    · next hbelow =>
      refine ⟨h.ordered, fun hu => ?_⟩
      obtain rfl | hu := List.mem_cons.mp hu
      · exact ⟨hbelow, habove⟩
      · exact h.bounds hu

/-- So are all values one after another. -/
theorem Encloses.foldl {range : p.Number × p.Number} {seen : List p.Number} (h : Encloses range seen)
    (values : List p.Number) : Encloses (values.foldl Extent.widenRange range) (values.reverse ++ seen) := by
  induction values generalizing range seen with
  | nil => exact h
  | cons v rest ih =>
    rw [List.reverse_cons, List.append_assoc]
    exact ih (h.widenRange v)

/-- The running minimum and maximum of some values are the ends of their range. -/
theorem isRangeOf_foldl (first : p.Number) (rest : List p.Number) :
    IsRangeOf (rest.foldl Extent.widenRange (first, first)).1 (rest.foldl Extent.widenRange (first, first)).2
      (first :: rest) := by
  have hself : ¬first < first := NumericOrder.lt_irrefl first
  have hmem : (rest.foldl Extent.widenRange (first, first)).1 ∈ first :: rest ∧
      (rest.foldl Extent.widenRange (first, first)).2 ∈ first :: rest :=
    forall_foldl_widenRange (P := (· ∈ first :: rest)) ⟨List.mem_cons_self, List.mem_cons_self⟩
      fun v hv => List.mem_cons_of_mem _ hv
  have hstart : Encloses (first, first) [first] := ⟨hself, fun hv => by
    obtain rfl := List.mem_singleton.mp hv
    exact ⟨hself, hself⟩⟩
  exact ⟨hmem.1, hmem.2, fun hv => (hstart.foldl rest).bounds (by simpa [or_comm] using hv)⟩

/-- A bounding rectangle has the ends of both ranges of coordinates for its limits. -/
theorem isRangeOf_bounding? {coords : List (Coord p.Number)} {e : Extent p.Number} (h : bounding? coords = some e) :
    IsRangeOf e.minX e.maxX (coords.map (·.x)) ∧ IsRangeOf e.minY e.maxY (coords.map (·.y)) := by
  cases coords with
  | nil => cases h
  | cons c rest =>
    cases h
    exact ⟨isRangeOf_foldl c.x _, isRangeOf_foldl c.y _⟩

end Extent

/-- Moving a double into a range makes no difference to a function that keeps the order, both ends, and has its value in
that range. -/
theorem Double.IsMonotone.apply_moved {f : Float → Float} (hf : IsMonotone f) {lo hi zero x : Float} (low : f lo = lo)
    (high : f hi = hi) (hlo : value lo ≠ 0) (hhi : value hi ≠ 0) (lower : lo ≤ f x) (upper : f x ≤ hi) :
    f (if x > zero then if hi < x then hi else x else if x < lo then lo else x) = f x := by
  split
  · split
    · next hbeyond =>
      have hback := hf.mono (le_iff.mpr (.inl hbeyond))
      rw [high] at hback ⊢
      exact (eq_of_le_of_le upper hback hhi).symm
    · rfl
  · split
    · next hbeyond =>
      have hback := hf.mono (le_iff.mpr (.inl hbeyond))
      rw [low] at hback ⊢
      exact (eq_of_le_of_le hback lower hlo).symm
    · rfl

namespace Mercator

/-- Longitudes are in the order of eastings. -/
theorem isMonotone_longitude (p : Platform) : Double.IsMonotone (longitude : p.Number → p.Number) := by
  have hconstants : 0 < Double.value earthRadius ∧ 0 < Double.value (180.0 / Scalar.pi) := by decide +kernel
  exact (Double.isMonotone_mul hconstants.2).comp (Double.isMonotone_div hconstants.1)

/-- Latitudes are in the order of northings, when exponentials and inverse tangents are in order. -/
theorem isMonotone_latitude (exp : Double.IsMonotone p.exp) (atan : Double.IsMonotone p.atan) :
    Double.IsMonotone (latitude : p.Number → p.Number) := by
  have hconstants : 0 < Double.value earthRadius ∧ 0 < Double.value 2.0 ∧ 0 < Double.value (Scalar.pi / 2.0) ∧
      0 < Double.value (180.0 / Scalar.pi) := by decide +kernel
  obtain ⟨hradius, htwo, hquarter, hdegrees⟩ := hconstants
  exact (Double.isMonotone_mul hdegrees).comp ((Double.isMonotone_sub hquarter).comp
    ((Double.isMonotone_mul_left htwo).comp (atan.comp (exp.comp (Double.isMonotone_div hradius)))))

/-- Rounding to five places keeps the order, when rounding to whole numbers does. -/
theorem isMonotone_truncate (round : Double.IsMonotone p.round) :
    Double.IsMonotone (truncate : p.Number → p.Number) := by
  have hscale : 0 < Double.value 100000.0 := by decide +kernel
  exact (Double.isMonotone_div hscale).comp (round.comp (Double.isMonotone_mul hscale))

end Mercator

namespace Mercator

/-- What is hardly more than half a turn to either side is stored as half a turn. -/
theorem truncate_of_halfTurn (hp : p.RoundsToWhole) {x : Float} (finite : (x * 100000.0).isFinite) :
    (|Double.value (x * 100000.0) - 18000000| < 1 / 2 → (truncate : p.Number → p.Number) x = (180.0 : Float)) ∧
      (|Double.value (x * 100000.0) + 18000000| < 1 / 2 → (truncate : p.Number → p.Number) x = (-180.0 : Float)) := by
  have heast : (18000000.0 : Float).isFinite ∧ Double.value 18000000.0 = (18000000 : ℤ) ∧
      Double.value 18000000.0 ≠ 0 ∧ (18000000.0 / 100000.0 : Float) = 180.0 := by decide +kernel
  have hwest : (-18000000.0 : Float).isFinite ∧ Double.value (-18000000.0) = (-18000000 : ℤ) ∧
      Double.value (-18000000.0) ≠ 0 ∧ (-18000000.0 / 100000.0 : Float) = -180.0 := by decide +kernel
  refine ⟨fun near => ?_, fun near => ?_⟩
  · have hround := hp.round_eq finite heast.1 heast.2.1 heast.2.2.1 (by simpa using near)
    exact (congrArg (· / (100000.0 : Float)) hround).trans heast.2.2.2
  · have hround := hp.round_eq finite hwest.1 hwest.2.1 hwest.2.2.1 (by simpa using near)
    exact (congrArg (· / (100000.0 : Float)) hround).trans hwest.2.2.2

/-- A longitude is kept within one turn. -/
theorem clampLongitude_x {c : Coord p.Number} (number : c.x == c.x) :
    (clampLongitude c).x = if c.x > 0.0 then if 180.0 < c.x then 180.0 else c.x
      else if c.x < -180.0 then -180.0 else c.x := by
  have hhalfTurn : (180.0 : Float).isNaN = false ∧ (-180.0 : Float).isNaN = false := by decide +kernel
  have hleast : min c.x 180.0 = if 180.0 < c.x then 180.0 else c.x :=
    NumericOrder.min_eq number (Double.beq_self_iff.mpr hhalfTurn.1)
  have hgreatest : max c.x (-180.0) = if c.x < -180.0 then -180.0 else c.x :=
    NumericOrder.max_eq number (Double.beq_self_iff.mpr hhalfTurn.2)
  rw [← hleast, ← hgreatest]
  rfl

/-- Something that is not a number is half a turn to the west. -/
theorem clampLongitude_x_of_isNaN {c : Coord p.Number} (none : Scalar.isNaN c.x) :
    (clampLongitude c).x = (-180.0 : p.Number) := by
  have hnot : ¬c.x > 0.0 := fun h =>
    Bool.eq_false_iff.mp (Double.beq_self_iff.mp (Double.numbers_of_lt h).2) none
  have hgreatest : max c.x (-180.0) = (-180.0 : p.Number) := if_pos none
  have hclamp : (clampLongitude c).x = max c.x (-180.0) := if_neg hnot
  rw [hclamp, hgreatest]

end Mercator

/-- A projection whose eastings are the longitudes of one turn, as far as five places show. -/
structure Extent.IsGeographic (projection : Extent p.Number) : Prop where
  ordered : projection.minX ≤ projection.maxX
  west : -180.0 ≤ Mercator.truncate (Mercator.longitude projection.minX)
  east : Mercator.truncate (Mercator.longitude projection.maxX) ≤ 180.0

/-- A value lies between the left and the right edge. -/
def Extent.HasEasting (projection : Extent p.Number) (x : p.Number) : Prop := projection.minX ≤ x ∧ x ≤ projection.maxX

instance (projection : Extent p.Number) (x : p.Number) : Decidable (projection.HasEasting x) :=
  inferInstanceAs (Decidable (_ ∧ _))

namespace Extent

variable {projection e : Extent p.Number}

/-- The world is such a projection. On doubles its edges are hardly more than half a turn away. -/
theorem isGeographic_world (hp : p.RoundsToWhole) : IsGeographic (.world : Extent p.Number) := by
  have hordered : (Extent.world : Extent Float).minX ≤ (Extent.world : Extent Float).maxX := by decide +kernel
  have hself : (-180.0 : Float) ≤ -180.0 ∧ (180.0 : Float) ≤ 180.0 := by decide +kernel
  have hwest := (Mercator.truncate_of_halfTurn hp (x := Mercator.longitude (Extent.world : Extent Float).minX)
    (by decide +kernel)).2 (by decide +kernel)
  have heast := (Mercator.truncate_of_halfTurn hp (x := Mercator.longitude (Extent.world : Extent Float).maxX)
    (by decide +kernel)).1 (by decide +kernel)
  exact ⟨hordered, hself.1.trans_eq hwest.symm, heast.trans_le hself.2⟩

/-- What is written of a box: its left and its right edge within one turn, and the two others. -/
theorem serialize_eq_limits (e : Extent p.Number) :
    e.serialize = [Mercator.truncate (Mercator.clampLongitude (Mercator.unproject ⟨e.minX, e.minY⟩)).x,
      Mercator.truncate (Mercator.latitude e.minY),
      Mercator.truncate (Mercator.clampLongitude (Mercator.unproject ⟨e.maxX, e.maxY⟩)).x,
      Mercator.truncate (Mercator.latitude e.maxY)] := rfl

/-- Within the projection a longitude is stored as it is, whether or not it is kept within one turn. -/
theorem IsGeographic.truncate_clampLongitude (h : projection.IsGeographic) (hp : p.RoundsToWhole) {c : Coord p.Number}
    (within : projection.HasEasting c.x) :
    Mercator.truncate (Mercator.clampLongitude (Mercator.unproject c)).x =
      Mercator.truncate (Mercator.longitude c.x) := by
  have hlongitude := Mercator.isMonotone_longitude p
  have htruncate := Mercator.isMonotone_truncate hp.isMonotone_round
  have hlow := Double.trans_le h.west (htruncate.mono (hlongitude.mono within.1))
  have hhigh := Double.trans_le (htruncate.mono (hlongitude.mono within.2)) h.east
  have hnumber := (Double.numbers_of_le (hlongitude.mono within.1)).2
  have hclamp := Mercator.clampLongitude_x (c := Mercator.unproject c) (Double.beq_self_iff.mpr hnumber)
  have hhalfTurn : (180.0 * 100000.0 : Float).isFinite ∧ |Double.value (180.0 * 100000.0) - 18000000| < 1 / 2 ∧
      Double.value 180.0 ≠ 0 := by decide +kernel
  have hhalfTurn' : (-180.0 * 100000.0 : Float).isFinite ∧ |Double.value (-180.0 * 100000.0) + 18000000| < 1 / 2 ∧
      Double.value (-180.0) ≠ 0 := by decide +kernel
  have heast := (Mercator.truncate_of_halfTurn hp hhalfTurn.1).1 hhalfTurn.2.1
  have hwest := (Mercator.truncate_of_halfTurn hp hhalfTurn'.1).2 hhalfTurn'.2.1
  rw [hclamp]
  exact htruncate.apply_moved hwest heast hhalfTurn'.2.2 hhalfTurn.2.2 hlow hhigh

/-- A box within the projection is written with the very limits that its corners are stored with. -/
theorem IsGeographic.serialize_eq (h : projection.IsGeographic) (hp : p.RoundsToWhole)
    (left : projection.HasEasting e.minX) (right : projection.HasEasting e.maxX) :
    e.serialize = [Mercator.truncate (Mercator.longitude e.minX), Mercator.truncate (Mercator.latitude e.minY),
      Mercator.truncate (Mercator.longitude e.maxX), Mercator.truncate (Mercator.latitude e.maxY)] := by
  rw [serialize_eq_limits, h.truncate_clampLongitude hp (c := ⟨e.minX, e.minY⟩) left,
    h.truncate_clampLongitude hp (c := ⟨e.maxX, e.maxY⟩) right]

end Extent

/-- The ring with which a polygon without holes is stored. -/
def Polygon.stored (q : Polygon p.Number) : Polyline p.Number :=
  ((q.map Mercator.unproject).map Mercator.truncateCoord).exterior

/-- Its positions are those of the polygon, in degrees and rounded. -/
theorem Polygon.mem_stored {q : Polygon p.Number} {c : Coord p.Number} :
    c ∈ q.stored ↔ ∃ d ∈ q.exterior, Mercator.truncateCoord (Mercator.unproject d) = c := by
  simp only [stored, map, ofRings, Polyline.mem_close, List.mem_map, exists_exists_and_eq_and]

/-- A box has the ends of both ranges of ordinates for its limits; there is none around no position. -/
inductive IsBoxOf : Option (List p.Number) → Polyline p.Number → Prop where
  | none : IsBoxOf .none []
  | box {west south east north : p.Number} {ring : Polyline p.Number} (xs : IsRangeOf west east (ring.map (·.x)))
      (ys : IsRangeOf south north (ring.map (·.y))) : IsBoxOf (some [west, south, east, north]) ring

/-- The stored ordinates are those of the polygon, one by one. -/
theorem Polygon.mem_ordinates_stored {q : Polygon p.Number} {v : p.Number} :
    (v ∈ q.stored.map (·.x) ↔
      v ∈ (q.exterior.map (·.x)).map fun x => Mercator.truncate (Mercator.longitude x)) ∧
    (v ∈ q.stored.map (·.y) ↔
      v ∈ (q.exterior.map (·.y)).map fun y => Mercator.truncate (Mercator.latitude y)) := by
  simp only [List.mem_map, mem_stored, exists_exists_and_eq_and]
  exact ⟨.rfl, .rfl⟩

/-- Without positions nothing is stored. -/
theorem Polygon.stored_eq_nil {q : Polygon p.Number} (empty : q.exterior = []) : q.stored = [] := by
  refine List.eq_nil_iff_forall_not_mem.mpr fun c hc => ?_
  obtain ⟨d, hd, -⟩ := mem_stored.mp hc
  rw [empty] at hd
  cases hd

/-- The stored ring is bounded by what is written of its bounding rectangle. -/
theorem Extent.IsGeographic.isBoxOf_stored {projection : Extent p.Number} (h : projection.IsGeographic)
    (hp : p.RoundsToWhole) (latitude : Double.IsMonotone (Mercator.latitude : p.Number → p.Number))
    {q : Polygon p.Number} {e : Extent p.Number} (bounding : Extent.bounding? q.exterior = some e)
    (left : projection.HasEasting e.minX) (right : projection.HasEasting e.maxX) :
    IsBoxOf (some e.serialize) q.stored := by
  have htruncate := Mercator.isMonotone_truncate hp.isMonotone_round
  obtain ⟨hx, hy⟩ := isRangeOf_bounding? bounding
  have hxs := hx.map (htruncate.comp (Mercator.isMonotone_longitude p))
  have hys := hy.map (htruncate.comp latitude)
  rw [h.serialize_eq hp left right]
  exact .box (hxs.congr fun _ => Polygon.mem_ordinates_stored.1) (hys.congr fun _ => Polygon.mem_ordinates_stored.2)

namespace FeatureCollection

/-- A polygon without holes is stored with one ring. -/
theorem ofProjected_polygon {q : Polygon p.Number} (holeFree : q.interiors = []) :
    ofProjected (.polygon q) = single { Feature.ofGeometry (.polygon [q.stored.toPositions]) with
      bbox := (Extent.bounding? q.exterior).map Extent.serialize } := by
  obtain ⟨exterior, interiors⟩ := q
  cases holeFree
  rfl

end FeatureCollection

namespace Extent

/-- A running minimum and maximum are numbers, or the same that is none. -/
theorem foldl_widenRange_cases (values : List p.Number) {range : p.Number × p.Number}
    (start : (range.1 == range.1 ∧ range.2 == range.2) ∨ Scalar.isNaN range.1 ∧ range.2 = range.1) :
    ((values.foldl Extent.widenRange range).1 == (values.foldl Extent.widenRange range).1 ∧
        (values.foldl Extent.widenRange range).2 == (values.foldl Extent.widenRange range).2) ∨
      Scalar.isNaN (values.foldl Extent.widenRange range).1 ∧
        (values.foldl Extent.widenRange range).2 = (values.foldl Extent.widenRange range).1 := by
  induction values generalizing range with
  | nil => exact start
  | cons v rest ih =>
    refine ih ?_
    have hcompared {x y : p.Number} (h : x < y) : x == x ∧ y == y := Double.numbers_of_lt h
    have hnone {x : p.Number} (h : Scalar.isNaN x) : ¬x == x := fun heq =>
      Bool.eq_false_iff.mp (Double.beq_self_iff.mp heq) h
    unfold Extent.widenRange
    split
    · next habove =>
      obtain ⟨hhi, hv⟩ := hcompared habove
      obtain hnumbers | ⟨hn, hsame⟩ := start
      · exact .inl ⟨hnumbers.1, hv⟩
      · exact absurd (hsame ▸ hhi) (hnone hn)
    · split
      · next hbelow =>
        obtain ⟨hv, hlo⟩ := hcompared hbelow
        obtain hnumbers | ⟨hn, -⟩ := start
        · exact .inl ⟨hv, hnumbers.2⟩
        · exact absurd hlo (hnone hn)
      · exact start

/-- A bounding rectangle has numbers for its left and its right edge, or the same that is none. -/
theorem edges_of_bounding? {coords : List (Coord p.Number)} {e : Extent p.Number} (h : bounding? coords = some e) :
    (e.minX == e.minX ∧ e.maxX == e.maxX) ∨ Scalar.isNaN e.minX ∧ e.maxX = e.minX := by
  cases coords with
  | nil => cases h
  | cons c rest =>
    cases h
    refine foldl_widenRange_cases _ ?_
    obtain hc | hc := Bool.eq_false_or_eq_true (Scalar.isNaN c.x)
    · exact .inr ⟨hc, rfl⟩
    · exact .inl ⟨Double.beq_self_iff.mpr hc, Double.beq_self_iff.mpr hc⟩

/-- Shifted back by whole worlds, a value lies within the projection, if it is a number then. -/
theorem hasEasting_unwrapX {projection : Extent p.Number} (ordered : projection.minX ≤ projection.maxX) {x : p.Number}
    (number : Wrap.unwrapX x projection == Wrap.unwrapX x projection) :
    projection.HasEasting (Wrap.unwrapX x projection) := by
  obtain ⟨hmin, hmax⟩ := Double.numbers_of_le ordered
  by_cases houtside : Wrap.isOutside x projection
  · have hunwrap : Wrap.unwrapX x projection = Scalar.clamp projection.minX projection.maxX
        (x + projection.width * Wrap.worldsAway x projection) := if_pos houtside
    rw [hunwrap] at number ⊢
    generalize x + projection.width * Wrap.worldsAway x projection = shifted at number ⊢
    refine Double.clamp_mem ordered (Bool.eq_false_iff.mpr fun hn => ?_)
    have hsame : Scalar.clamp projection.minX projection.maxX shifted = shifted := Double.clamp_of_isNaN hn
    rw [hsame] at number
    exact Bool.eq_false_iff.mp (Double.beq_self_iff.mp number) hn
  · have hunwrap : Wrap.unwrapX x projection = x := if_neg houtside
    rw [hunwrap] at number ⊢
    have hnumber := Double.beq_self_iff.mp number
    obtain ⟨hleft, hright⟩ : ¬x < projection.minX ∧ ¬x > projection.maxX := by
      simpa [Wrap.isOutside] using houtside
    exact ⟨(Double.le_iff_not_lt hmin hnumber).mpr hleft, (Double.le_iff_not_lt hnumber hmax).mpr hright⟩

/-- A box without a left and a right edge is written with half a turn to the west for both. -/
theorem serialize_of_isNaN {e : Extent p.Number} (none : Scalar.isNaN e.minX) (same : e.maxX = e.minX) :
    e.serialize = [Mercator.truncate (-180.0), Mercator.truncate (Mercator.latitude e.minY),
      Mercator.truncate (-180.0), Mercator.truncate (Mercator.latitude e.maxY)] := by
  have hlongitude : Scalar.isNaN (Mercator.longitude e.minX) := (Mercator.isMonotone_longitude p).isNaN none
  have hhalfTurn (y : p.Number) : (Mercator.clampLongitude (Mercator.unproject ⟨e.minX, y⟩)).x = -180.0 :=
    Mercator.clampLongitude_x_of_isNaN hlongitude
  rw [serialize_eq_limits, same, hhalfTurn, hhalfTurn]

end Extent

namespace DrawController

/-- What is committed is the drawing within the projection, as it is stored, and its box has some area. -/
theorem drawEnd_committed {d d' : DrawController p.Number} {ring : Polyline p.Number} {projection : Extent p.Number}
    {ops : PlanarOps p.Number} {shape : Shape p.Number} {collection : FeatureCollection p.Number}
    {provenance : Provenance} (h : d.drawEnd ring projection ops = (d', .committed shape collection provenance)) :
    collection = .ofProjected (.polygon (.ofRings (ring.map (Wrap.unwrapCoord projection)) [])) ∧
      isDegenerate collection = false := by
  unfold drawEnd at h
  split at h
  · cases h
  · dsimp only at h
    split at h
    · cases h
    · next hdegenerate =>
      split at h
      · cases h
      · cases h
        exact ⟨rfl, Bool.eq_false_iff.mpr hdegenerate⟩

end DrawController

namespace FeatureCollection

/-- Within the projection, what is written of the bounding rectangle is the box of the stored ring. -/
theorem isBoxOf_bounding? (hp : p.RoundsToWhole)
    (latitude : Double.IsMonotone (Mercator.latitude : p.Number → p.Number)) {projection : Extent p.Number}
    (geographic : projection.IsGeographic) {q : Polygon p.Number}
    (within : ∀ c ∈ q.exterior, projection.HasEasting c.x) :
    IsBoxOf ((Extent.bounding? q.exterior).map Extent.serialize) q.stored := by
  cases hbounding : Extent.bounding? q.exterior with
  | none =>
    have hempty : q.exterior = [] := by
      cases hexterior : q.exterior with
      | nil => rfl
      | cons c rest =>
        rw [hexterior] at hbounding
        cases hbounding
    rw [Polygon.stored_eq_nil hempty]
    exact .none
  | some e =>
    obtain ⟨hx, -⟩ := Extent.isRangeOf_bounding? hbounding
    have hedge {x : p.Number} (hx : x ∈ q.exterior.map (·.x)) : projection.HasEasting x := by
      obtain ⟨c, hc, rfl⟩ := List.mem_map.mp hx
      exact within c hc
    exact geographic.isBoxOf_stored hp latitude hbounding (hedge hx.lo_mem) (hedge hx.hi_mem)

/-- So it is for a drawing brought back into the projection, if what is written has some width: then no edge of its box
is without a number. -/
theorem isBoxOf_unwrapped (hp : p.RoundsToWhole)
    (latitude : Double.IsMonotone (Mercator.latitude : p.Number → p.Number)) {projection : Extent p.Number}
    (geographic : projection.IsGeographic) {ring : Polyline p.Number} {q : Polygon p.Number}
    (unwrapped : .ofRings (ring.map (Wrap.unwrapCoord projection)) [] = q)
    (sized : DrawController.isDegenerate (ofProjected (.polygon q)) = false) :
    ∃ west south east north, (Extent.bounding? q.exterior).map Extent.serialize = some [west, south, east, north] ∧
      IsBoxOf (some [west, south, east, north]) q.stored ∧ ¬west == east ∧ ¬south == north := by
  rw [ofProjected_polygon (by rw [← unwrapped]; rfl)] at sized
  cases hbounding : Extent.bounding? q.exterior with
  | none =>
    rw [hbounding] at sized
    cases sized
  | some e =>
    rw [hbounding, Option.map_some] at sized
    obtain ⟨hleft, hright⟩ | ⟨hn, hsame⟩ := Extent.edges_of_bounding? hbounding
    · have hedge {x : p.Number} (hx : x ∈ q.exterior.map (·.x)) (number : x == x) : projection.HasEasting x := by
        obtain ⟨c, hc, rfl⟩ := List.mem_map.mp hx
        rw [← unwrapped, Polygon.ofRings, Polyline.mem_close] at hc
        obtain ⟨d, -, rfl⟩ := List.mem_map.mp hc
        exact Extent.hasEasting_unwrapX geographic.ordered number
      obtain ⟨hx, -⟩ := Extent.isRangeOf_bounding? hbounding
      have heasting := hedge hx.lo_mem hleft
      have heasting' := hedge hx.hi_mem hright
      have hbox := geographic.isBoxOf_stored hp latitude hbounding heasting heasting'
      rw [geographic.serialize_eq hp heasting heasting'] at hbox sized
      obtain ⟨hwide, hhigh⟩ := Bool.or_eq_false_iff.mp sized
      exact ⟨_, _, _, _, congrArg some (geographic.serialize_eq hp heasting heasting'), hbox,
        Bool.eq_false_iff.mp hwide, Bool.eq_false_iff.mp hhigh⟩
    · have hnumber : (-180.0 : Float) ≤ -180.0 := by decide +kernel
      have hself := (Double.numbers_of_le ((Mercator.isMonotone_truncate hp.isMonotone_round).mono hnumber)).1
      rw [Extent.serialize_of_isNaN hn hsame] at sized
      obtain ⟨hwide, -⟩ := Bool.or_eq_false_iff.mp sized
      exact absurd (Double.beq_self_iff.mpr hself) (Bool.eq_false_iff.mp hwide)

/-- A drawing without holes within the projection is stored with the least and the greatest of its stored ordinates for
its box. So what is committed is stored with some width and some height, wherever it was drawn. -/
theorem isBoxOf_ofProjected (hp : p.RoundsToWhole)
    (latitude : Double.IsMonotone (Mercator.latitude : p.Number → p.Number)) {projection : Extent p.Number}
    (geographic : projection.IsGeographic) :
    (∀ q : Polygon p.Number, q.interiors = [] → (∀ c ∈ q.exterior, projection.HasEasting c.x) →
      ∃ box, ofProjected (.polygon q) =
          single { Feature.ofGeometry (.polygon [q.stored.toPositions]) with bbox := box } ∧
        IsBoxOf box q.stored) ∧
    ∀ (d d' : DrawController p.Number) (ring : Polyline p.Number) (ops : PlanarOps p.Number) (shape : Shape p.Number)
      (collection : FeatureCollection p.Number) (provenance : Provenance),
      d.drawEnd ring projection ops = (d', .committed shape collection provenance) →
      ∃ stored west south east north, collection =
          single { Feature.ofGeometry (.polygon [stored.toPositions]) with bbox := some [west, south, east, north] } ∧
        IsBoxOf (some [west, south, east, north]) stored ∧ ¬west == east ∧ ¬south == north := by
  constructor
  · intro q holeFree within
    exact ⟨_, ofProjected_polygon holeFree, isBoxOf_bounding? hp latitude geographic within⟩
  · intro d d' ring ops shape collection provenance h
    obtain ⟨rfl, hdegenerate⟩ := DrawController.drawEnd_committed h
    obtain ⟨q, hq⟩ : ∃ q : Polygon p.Number, .ofRings (ring.map (Wrap.unwrapCoord projection)) [] = q := ⟨_, rfl⟩
    rw [hq] at hdegenerate ⊢
    obtain ⟨west, south, east, north, hwritten, hbox, hsized⟩ :=
      isBoxOf_unwrapped hp latitude geographic hq hdegenerate
    refine ⟨q.stored, west, south, east, north, ?_, hbox, hsized⟩
    rw [ofProjected_polygon (by rw [← hq]; rfl), hwritten]

end FeatureCollection

namespace Platform

/-- A platform that rounds to whole numbers, with the latitudes at the equator and ten degrees to the north, which stand
for those around them. -/
def twoLatitudes : Platform :=
  { native with
    round := Double.nearestWhole
    exp := Double.stepAt 0.1 1.0 1.191753597291995
    atan := Double.stepAt 1.1 0.7853981633974483 0.8726646279381765 }

/-- It rounds as it should. -/
theorem roundsToWhole_twoLatitudes : RoundsToWhole twoLatitudes := roundsToWhole_of_nearestWhole rfl

/-- Its latitudes are in order. -/
theorem isMonotone_latitude_twoLatitudes :
    Double.IsMonotone (Mercator.latitude : twoLatitudes.Number → twoLatitudes.Number) :=
  Mercator.isMonotone_latitude (Double.isMonotone_stepAt (by decide +kernel) (by decide +kernel))
    (Double.isMonotone_stepAt (by decide +kernel) (by decide +kernel))

end Platform

namespace FeatureCollection

/-- A field of ten degrees to the north and the east of the origin. -/
def tenDegrees : Polygon Platform.twoLatitudes.Number := (Extent.mk 0.0 0.0 1113194.9 1118890.0).polygon

/-- It is stored with its box, and can be drawn. -/
theorem isBoxOf_ofProjected_tenDegrees :
    Platform.RoundsToWhole .twoLatitudes ∧ (Extent.world : Extent Platform.twoLatitudes.Number).IsGeographic ∧
      (∃ box, ofProjected (.polygon tenDegrees) =
          single { Feature.ofGeometry (.polygon [tenDegrees.stored.toPositions]) with bbox := box } ∧
        IsBoxOf box tenDegrees.stored) ∧
      ∃ d' shape collection provenance west south east north,
        DrawController.drawEnd ⟨.drawBox, false, none⟩ tenDegrees.exterior .world Platform.twoLatitudes.planarOps =
          (d', .committed shape collection provenance) ∧
        (collection.features.map (·.bbox)) = [some [west, south, east, north]] ∧ ¬west == east ∧ ¬south == north := by
  have hworld := Extent.isGeographic_world Platform.roundsToWhole_twoLatitudes
  obtain ⟨hstored, hdrawn⟩ := isBoxOf_ofProjected Platform.roundsToWhole_twoLatitudes
    Platform.isMonotone_latitude_twoLatitudes hworld
  obtain ⟨drawn, hshape⟩ : ∃ drawn : Shape Platform.twoLatitudes.Number,
      .polygon (.ofRings (tenDegrees.exterior.map (Wrap.unwrapCoord .world)) []) = drawn := ⟨_, rfl⟩
  have hwide : DrawController.isDegenerate (.ofProjected drawn) = false := by
    rw [← hshape]
    decide +kernel
  have hcommitted : DrawController.drawEnd ⟨.drawBox, false, none⟩ tenDegrees.exterior .world
      Platform.twoLatitudes.planarOps = (⟨.normal, false, none⟩, .committed drawn (.ofProjected drawn) .box) := by
    simp [DrawController.drawEnd, DrawMode.provenance?, DrawMode.transition, hshape, hwide]
  obtain ⟨stored, west, south, east, north, hcollection, -, hsized⟩ := hdrawn _ _ _ _ _ _ _ hcommitted
  refine ⟨Platform.roundsToWhole_twoLatitudes, hworld, hstored tenDegrees rfl (by decide +kernel), _, _, _, _, west,
    south, east, north, hcommitted, ?_, hsized⟩
  rw [hcollection]
  rfl

end FeatureCollection

end AreaOfInterest
