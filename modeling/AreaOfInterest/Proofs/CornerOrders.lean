import AreaOfInterest.Proofs.Corners
import Mathlib.Algebra.CharP.Invertible
import Mathlib.Analysis.Convex.Segment
import Mathlib.Data.Fintype.Prod

/-!
# The orders of the corners of a box

A ring is recognised as a box by its corners, in any order. Of a box with some area the order decides whether the ring
runs around the rectangle, each side along one axis. It does when the first corner and the third are opposite ones. In
the other orders two sides that are not neighbours are the diagonals, and the ring crosses itself.
-/

namespace AreaOfInterest

variable {α : Type}

/-- Two positions share one coordinate and not the other. -/
def Coord.SharesOne [BEq α] (c d : Coord α) : Prop := (c.x == d.x) ≠ (c.y == d.y)

/-- Two positions share no coordinate. -/
def Coord.SharesNone [BEq α] (c d : Coord α) : Prop := ¬ c.x == d.x ∧ ¬ c.y == d.y

variable [Scalar α]

/-- The straight line between two positions, where they are placed. -/
def Placement.line (p : Placement α) (side : Coord α × Coord α) : Set (ℝ × ℝ) :=
  segment ℝ (p.point side.1) (p.point side.2)

namespace Ring

/-- Each side of a ring runs along one axis. -/
def RunsAlongAxes (ring : Polyline α) : Prop := ∀ side ∈ Polyline.segments ring, side.1.SharesOne side.2

/-- Two sides of a closed ring that are not neighbours have a point in common. -/
def CrossesItself (p : Placement α) (ring : Polyline α) : Prop :=
  ∃ i j s t, (Polyline.segments ring)[i]? = some s ∧ (Polyline.segments ring)[j]? = some t ∧
    i + 1 < j ∧ j + 1 < i + (Polyline.segments ring).length ∧ (p.line s ∩ p.line t).Nonempty

omit [Scalar α] in
/-- The sides of a ring of five points. -/
theorem segments_five (a b c d z : Coord α) :
    Polyline.segments [a, b, c, d, z] = [(a, b), (b, c), (c, d), (d, z)] := rfl

/-- A ring of four sides crosses itself when the first and the third or the second and the fourth do. -/
theorem crossesItself_iff {p : Placement α} {a b c d z : Coord α} :
    CrossesItself p [a, b, c, d, z] ↔
      (p.line (a, b) ∩ p.line (c, d)).Nonempty ∨ (p.line (b, c) ∩ p.line (d, z)).Nonempty := by
  rw [CrossesItself, segments_five]
  constructor
  · rintro ⟨i, j, s, t, hs, ht, hij, hji, hmeet⟩
    have hlt : j < 4 := (List.getElem?_eq_some_iff.mp ht).1
    have hlength : j + 1 < i + 4 := hji
    obtain ⟨rfl, rfl⟩ | ⟨rfl, rfl⟩ : i = 0 ∧ j = 2 ∨ i = 1 ∧ j = 3 := by omega
    · cases hs
      cases ht
      exact .inl hmeet
    · cases hs
      cases ht
      exact .inr hmeet
  · rintro (hmeet | hmeet)
    · exact ⟨0, 2, _, _, rfl, rfl, by simp, by simp, hmeet⟩
    · exact ⟨1, 3, _, _, rfl, rfl, by simp, by simp, hmeet⟩

end Ring

namespace Placement

variable {p : Placement α} {a b c d : Coord α}

/-- Two upright lines at different places do not meet. -/
theorem not_meets_of_x (hab : p.place a.x = p.place b.x) (hcd : p.place c.x = p.place d.x)
    (hne : p.place a.x ≠ p.place c.x) : ¬ (p.line (a, b) ∩ p.line (c, d)).Nonempty := by
  rintro ⟨q, hq, hq'⟩
  have hqx : q.1 ∈ segment ℝ (p.place a.x) (p.place b.x) := (Prod.segment_subset _ _ hq).1
  have hqx' : q.1 ∈ segment ℝ (p.place c.x) (p.place d.x) := (Prod.segment_subset _ _ hq').1
  rw [← hab, segment_same, Set.mem_singleton_iff] at hqx
  rw [← hcd, segment_same, Set.mem_singleton_iff] at hqx'
  exact hne (hqx.symm.trans hqx')

/-- Two level lines at different heights do not meet. -/
theorem not_meets_of_y (hab : p.place a.y = p.place b.y) (hcd : p.place c.y = p.place d.y)
    (hne : p.place a.y ≠ p.place c.y) : ¬ (p.line (a, b) ∩ p.line (c, d)).Nonempty := by
  rintro ⟨q, hq, hq'⟩
  have hqy : q.2 ∈ segment ℝ (p.place a.y) (p.place b.y) := (Prod.segment_subset _ _ hq).2
  have hqy' : q.2 ∈ segment ℝ (p.place c.y) (p.place d.y) := (Prod.segment_subset _ _ hq').2
  rw [← hab, segment_same, Set.mem_singleton_iff] at hqy
  rw [← hcd, segment_same, Set.mem_singleton_iff] at hqy'
  exact hne (hqy.symm.trans hqy')

/-- Two lines with the same middle meet. -/
theorem meets_of_middle (hx : p.place a.x + p.place b.x = p.place c.x + p.place d.x)
    (hy : p.place a.y + p.place b.y = p.place c.y + p.place d.y) : (p.line (a, b) ∩ p.line (c, d)).Nonempty := by
  have hsum : p.point a + p.point b = p.point c + p.point d := Prod.ext hx hy
  have hmiddle : midpoint ℝ (p.point a) (p.point b) = midpoint ℝ (p.point c) (p.point d) := by
    rw [midpoint_eq_smul_add, midpoint_eq_smul_add, hsum]
  refine ⟨midpoint ℝ (p.point a) (p.point b), midpoint_mem_segment _ _, ?_⟩
  rw [hmiddle]
  exact midpoint_mem_segment _ _

end Placement

namespace Extent

open Classical in
/-- On each axis, whether a position is placed at the upper end of an extent. -/
noncomputable def ends (p : Placement α) (e : Extent α) (c : Coord α) : Bool × Bool :=
  (decide (p.place c.x = p.place e.maxX), decide (p.place c.y = p.place e.maxY))

/-- An extent is wider and taller than nothing, where its limits are placed. -/
structure IsWide (p : Placement α) (e : Extent α) : Prop where
  x : p.place e.minX < p.place e.maxX
  y : p.place e.minY < p.place e.maxY

/-- A position given by numbers is placed at a corner of an extent. -/
structure IsAtCorner (p : Placement α) (e : Extent α) (c : Coord α) : Prop where
  number : c.IsNumber
  x : p.place c.x = p.place e.minX ∨ p.place c.x = p.place e.maxX
  y : p.place c.y = p.place e.minY ∨ p.place c.y = p.place e.maxY

variable {p : Placement α} {e : Extent α} {c d : Coord α}

/-- What is in the place of a corner is at a corner. -/
theorem isAtCorner_of_key {k v : Coord α} (corner : k ∈ e.ring.take 4) (number : v.IsNumber)
    (same : p.key k = p.key v) : IsAtCorner p e v := by
  have hpoints : p.point k = p.point v := same
  obtain ⟨hx, hy⟩ : p.place k.x = p.place v.x ∧ p.place k.y = p.place v.y := Prod.ext_iff.mp hpoints
  obtain ⟨hkx, hky⟩ := limits_of_mem_corners corner
  refine ⟨number, ?_, ?_⟩
  · rw [← hx]
    exact hkx.imp (congrArg p.place) (congrArg p.place)
  · rw [← hy]
    exact hky.imp (congrArg p.place) (congrArg p.place)

/-- What is in the same places is at the same ends. -/
theorem map_ends_of_map_key {l m : List (Coord α)} (h : l.map p.key = m.map p.key) :
    l.map (ends p e) = m.map (ends p e) := by
  have hofKey (l : List (Coord α)) : l.map (ends p e) =
      (l.map p.key).map fun q => (decide ((ofLex q).1 = p.place e.maxX), decide ((ofLex q).2 = p.place e.maxY)) := by
    rw [List.map_map]
    rfl
  rw [hofKey, hofKey, h]

/-- The ends at which the corners of an extent are, in their order. -/
theorem map_ends_corners (wide : IsWide p e) :
    (e.ring.take 4).map (ends p e) = [(false, false), (false, true), (true, true), (true, false)] := by
  simp [Extent.ring, ends, wide.x.ne, wide.y.ne]

/-- At corners, coordinates are in the same place when they are at the same end. -/
theorem IsAtCorner.x_eq_iff (hc : IsAtCorner p e c) (hd : IsAtCorner p e d) (wide : IsWide p e) :
    p.place c.x = p.place d.x ↔ (ends p e c).1 = (ends p e d).1 := by
  have hne := wide.x.ne
  obtain hcx | hcx := hc.x <;> obtain hdx | hdx := hd.x <;> simp [ends, hcx, hdx, hne, hne.symm]

/-- At corners, heights are the same when they are at the same end. -/
theorem IsAtCorner.y_eq_iff (hc : IsAtCorner p e c) (hd : IsAtCorner p e d) (wide : IsWide p e) :
    p.place c.y = p.place d.y ↔ (ends p e c).2 = (ends p e d).2 := by
  have hne := wide.y.ne
  obtain hcy | hcy := hc.y <;> obtain hdy | hdy := hd.y <;> simp [ends, hcy, hdy, hne, hne.symm]

/-- Corners at different ends of the first axis have the middle of the extent between them. -/
theorem IsAtCorner.x_add (hc : IsAtCorner p e c) (hd : IsAtCorner p e d) (wide : IsWide p e)
    (h : (ends p e c).1 ≠ (ends p e d).1) : p.place c.x + p.place d.x = p.place e.minX + p.place e.maxX := by
  have hne := mt (hc.x_eq_iff hd wide).mp h
  obtain hcx | hcx := hc.x <;> obtain hdx | hdx := hd.x <;> rw [hcx, hdx] at hne ⊢
  · exact absurd rfl hne
  · exact add_comm _ _
  · exact absurd rfl hne

/-- Corners at different ends of the second axis have the middle of the extent between them. -/
theorem IsAtCorner.y_add (hc : IsAtCorner p e c) (hd : IsAtCorner p e d) (wide : IsWide p e)
    (h : (ends p e c).2 ≠ (ends p e d).2) : p.place c.y + p.place d.y = p.place e.minY + p.place e.maxY := by
  have hne := mt (hc.y_eq_iff hd wide).mp h
  obtain hcy | hcy := hc.y <;> obtain hdy | hdy := hd.y <;> rw [hcy, hdy] at hne ⊢
  · exact absurd rfl hne
  · exact add_comm _ _
  · exact absurd rfl hne

/-- Two corners are above each other. -/
def IsUpright (a b : Bool × Bool) : Prop := a.1 = b.1 ∧ a.2 ≠ b.2

/-- Two corners are beside each other. -/
def IsLevel (a b : Bool × Bool) : Prop := a.1 ≠ b.1 ∧ a.2 = b.2

/-- Two corners are opposite ones. -/
def IsDiagonal (a b : Bool × Bool) : Prop := a.1 ≠ b.1 ∧ a.2 ≠ b.2

instance (a b : Bool × Bool) : Decidable (IsUpright a b) := inferInstanceAs (Decidable (_ ∧ _))

instance (a b : Bool × Bool) : Decidable (IsLevel a b) := inferInstanceAs (Decidable (_ ∧ _))

instance (a b : Bool × Bool) : Decidable (IsDiagonal a b) := inferInstanceAs (Decidable (_ ∧ _))

/-- In whichever order the four corners are gone through, the first and the third are opposite, and then the sides are
upright and level in turn, or they are not, and then two sides that are not neighbours are the diagonals. -/
theorem corner_orders : ∀ a b c d : Bool × Bool,
    [a, b, c, d].Perm [(false, false), (false, true), (true, true), (true, false)] →
      IsDiagonal a c ∧
          (IsUpright a b ∧ IsLevel b c ∧ IsUpright c d ∧ IsLevel d a ∨
            IsLevel a b ∧ IsUpright b c ∧ IsLevel c d ∧ IsUpright d a) ∨
        ¬ IsDiagonal a c ∧
          (IsDiagonal a b ∧ IsDiagonal c d ∧ b ≠ c ∧ d ≠ a ∨ IsDiagonal b c ∧ IsDiagonal d a ∧ a ≠ b ∧ c ≠ d) := by
  decide

/-- Two upright lines between corners, at different ends of the first axis, do not meet. -/
theorem not_meets_of_isUpright {a b c d : Coord α} (ha : IsAtCorner p e a) (hb : IsAtCorner p e b)
    (hc : IsAtCorner p e c) (hd : IsAtCorner p e d) (wide : IsWide p e) (hab : IsUpright (ends p e a) (ends p e b))
    (hcd : IsUpright (ends p e c) (ends p e d)) (apart : (ends p e a).1 ≠ (ends p e c).1) :
    ¬ (p.line (a, b) ∩ p.line (c, d)).Nonempty :=
  Placement.not_meets_of_x ((ha.x_eq_iff hb wide).mpr hab.1) ((hc.x_eq_iff hd wide).mpr hcd.1)
    (mt (ha.x_eq_iff hc wide).mp apart)

/-- Two level lines between corners, at different ends of the second axis, do not meet. -/
theorem not_meets_of_isLevel {a b c d : Coord α} (ha : IsAtCorner p e a) (hb : IsAtCorner p e b)
    (hc : IsAtCorner p e c) (hd : IsAtCorner p e d) (wide : IsWide p e) (hab : IsLevel (ends p e a) (ends p e b))
    (hcd : IsLevel (ends p e c) (ends p e d)) (apart : (ends p e a).2 ≠ (ends p e c).2) :
    ¬ (p.line (a, b) ∩ p.line (c, d)).Nonempty :=
  Placement.not_meets_of_y ((ha.y_eq_iff hb wide).mpr hab.2) ((hc.y_eq_iff hd wide).mpr hcd.2)
    (mt (ha.y_eq_iff hc wide).mp apart)

/-- Diagonals meet in the middle of the extent. -/
theorem meets_of_isDiagonal {a b c d : Coord α} (ha : IsAtCorner p e a) (hb : IsAtCorner p e b)
    (hc : IsAtCorner p e c) (hd : IsAtCorner p e d) (wide : IsWide p e) (hab : IsDiagonal (ends p e a) (ends p e b))
    (hcd : IsDiagonal (ends p e c) (ends p e d)) : (p.line (a, b) ∩ p.line (c, d)).Nonempty := by
  refine Placement.meets_of_middle ?_ ?_
  · rw [ha.x_add hb wide hab.1, hc.x_add hd wide hcd.1]
  · rw [ha.y_add hb wide hab.2, hc.y_add hd wide hcd.2]

variable [NumericOrder α]

/-- Corners are equal as numbers when they are at the same ends. -/
theorem IsAtCorner.beq_iff (hc : IsAtCorner p e c) (hd : IsAtCorner p e d) (wide : IsWide p e) :
    c == d ↔ ends p e c = ends p e d := by
  rw [Coord.beq_iff, p.beq_iff hc.number.x hd.number.x, p.beq_iff hc.number.y hd.number.y, hc.x_eq_iff hd wide,
    hc.y_eq_iff hd wide, Prod.ext_iff]

/-- Corners share one coordinate when they are above or beside each other. -/
theorem IsAtCorner.sharesOne_iff (hc : IsAtCorner p e c) (hd : IsAtCorner p e d) (wide : IsWide p e) :
    c.SharesOne d ↔ IsUpright (ends p e c) (ends p e d) ∨ IsLevel (ends p e c) (ends p e d) := by
  have hx := (p.beq_iff hc.number.x hd.number.x).trans (hc.x_eq_iff hd wide)
  have hy := (p.beq_iff hc.number.y hd.number.y).trans (hc.y_eq_iff hd wide)
  rw [Coord.SharesOne, IsUpright, IsLevel, ne_eq, Bool.eq_iff_iff, hx, hy]
  tauto

/-- Corners share no coordinate when they are opposite ones. -/
theorem IsAtCorner.sharesNone_iff (hc : IsAtCorner p e c) (hd : IsAtCorner p e d) (wide : IsWide p e) :
    c.SharesNone d ↔ IsDiagonal (ends p e c) (ends p e d) := by
  have hx := (p.beq_iff hc.number.x hd.number.x).trans (hc.x_eq_iff hd wide)
  have hy := (p.beq_iff hc.number.y hd.number.y).trans (hc.y_eq_iff hd wide)
  rw [Coord.SharesNone, IsDiagonal, hx, hy]

end Extent

namespace Ring

open Extent

variable {ring : Polyline α} {e : Extent α}

/-- Five points are placed at the corners of an extent, the first four in some order and the last like the first. -/
structure GoesThrough (p : Placement α) (e : Extent α) (a b c d z : Coord α) : Prop where
  corners : ∀ v ∈ [a, b, c, d, z], IsAtCorner p e v
  closed : ends p e z = ends p e a
  order : [ends p e a, ends p e b, ends p e c, ends p e d].Perm
    [(false, false), (false, true), (true, true), (true, false)]

omit [Scalar α] in
/-- A list of five members. -/
theorem exists_of_length_five {β : Type} {l : List β} (h : l.length = 5) : ∃ a b c d z, l = [a, b, c, d, z] :=
  match l, h with
  | [a, b, c, d, z], _ => ⟨a, b, c, d, z, rfl⟩

variable [NumericOrder α]

/-- A closed ring with the corners of its extent goes through them. -/
theorem IsCornered.goesThrough (p : Placement α) (cornered : IsCornered ring) (numbers : ∀ c ∈ ring, c.IsNumber)
    (closed : Polyline.isClosed ring) (hull : Extent.ofCoords? ring = some e) (wide : IsWide p e) :
    ∃ a b c d z, ring = [a, b, c, d, z] ∧ GoesThrough p e a b c d z := by
  obtain ⟨hlength, e', corners, hull', hperm, hsame⟩ := cornered
  cases hull.symm.trans hull'
  obtain ⟨a, b, c, d, z, rfl⟩ := exists_of_length_five hlength
  obtain ⟨hx, hy⟩ := isRange_of_ofCoords? (p := p) numbers hull
  have hnumbers : ∀ v ∈ corners, v.IsNumber := fun v hv => numbers v (List.mem_of_mem_take (hperm.mem_iff.mp hv))
  have hkeys : corners.map p.key = (e.ring.take 4).map p.key :=
    (p.list_beq_iff hnumbers (corners_isNumber hx hy)).mp hsame
  have hfirst : ∀ v ∈ [a, b, c, d], IsAtCorner p e v := by
    intro v hv
    have hmem : p.key v ∈ (e.ring.take 4).map p.key := hkeys ▸ List.mem_map_of_mem (hperm.mem_iff.mpr hv)
    obtain ⟨k, hk, hkey⟩ := List.mem_map.mp hmem
    exact isAtCorner_of_key hk (numbers v (List.mem_of_mem_take (i := 4) hv)) hkey
  have hlast : IsAtCorner p e z ∧ ends p e z = ends p e a := by
    have hclosed : a == z := closed
    rw [Coord.beq_iff] at hclosed
    have hzx : p.place z.x = p.place a.x := (p.place_eq hclosed.1).symm
    have hzy : p.place z.y = p.place a.y := (p.place_eq hclosed.2).symm
    have ha := hfirst a List.mem_cons_self
    exact ⟨⟨numbers z (by simp), hzx ▸ ha.x, hzy ▸ ha.y⟩, by rw [ends, ends, hzx, hzy]⟩
  refine ⟨a, b, c, d, z, rfl, fun v hv => ?_, hlast.2, ?_⟩
  · obtain hv | hv := List.mem_append.mp (show v ∈ [a, b, c, d] ++ [z] from hv)
    · exact hfirst v hv
    · exact List.mem_singleton.mp hv ▸ hlast.1
  · rw [← map_ends_corners wide, ← map_ends_of_map_key hkeys]
    exact (hperm.map (ends p e)).symm

/-- The points of a closed ring that is taken for a box are given by numbers. -/
theorem isNumber_of_isBox (box : isBox ring) (closed : Polyline.isClosed ring) : ∀ c ∈ ring, c.IsNumber := by
  cases hull : Extent.ofCoords? ring with
  | none => simp [isBox, hull] at box
  | some e =>
    simp only [isBox, hull, Bool.and_eq_true, beq_iff_eq] at box
    obtain ⟨hlength, hsame⟩ := box
    obtain ⟨a, b, c, d, z, rfl⟩ := exists_of_length_five hlength
    intro v hv
    obtain hv | hv := List.mem_append.mp (show v ∈ [a, b, c, d] ++ [z] from hv)
    · obtain ⟨k, hk⟩ := exists_beq_of_beq hsame v ((perm_sorted _).mem_iff.mpr hv)
      rw [Coord.beq_iff] at hk
      exact ⟨NumericOrder.number_of_beq hk.1, NumericOrder.number_of_beq hk.2⟩
    · cases List.mem_singleton.mp hv
      have hclosed : a == z := closed
      rw [Coord.beq_iff] at hclosed
      exact ⟨NumericOrder.number_of_beq_right hclosed.1, NumericOrder.number_of_beq_right hclosed.2⟩

variable {p : Placement α} {a b c d z : Coord α}

omit [NumericOrder α] in
/-- Each of the five points is at a corner. -/
theorem GoesThrough.atCorners (h : GoesThrough p e a b c d z) :
    IsAtCorner p e a ∧ IsAtCorner p e b ∧ IsAtCorner p e c ∧ IsAtCorner p e d ∧ IsAtCorner p e z := by
  simpa using h.corners

/-- No two neighbours among the corners are equal. -/
theorem GoesThrough.not_beq (h : GoesThrough p e a b c d z) (wide : IsWide p e) :
    ∀ side ∈ Polyline.segments [a, b, c, d, z], ¬ side.1 == side.2 := by
  obtain ⟨ha, hb, hc, hd, hz⟩ := h.atCorners
  have hnodup : [ends p e a, ends p e b, ends p e c, ends p e d].Nodup := h.order.nodup_iff.mpr (by decide)
  simp only [segments_five, List.forall_mem_cons, ha.beq_iff hb wide, hb.beq_iff hc wide, hc.beq_iff hd wide,
    hd.beq_iff hz wide, h.closed]
  simp only [List.nodup_cons, List.mem_cons, List.not_mem_nil, or_false, not_or] at hnodup
  obtain ⟨⟨hab, -, had⟩, ⟨hbc, -⟩, hcd, -⟩ := hnodup
  exact ⟨hab, hbc, hcd, Ne.symm had, by simp⟩

/-- A ring through the corners has opposite ones first and third, runs along the axes and does not cross itself, or it
has not, does not and does. -/
theorem GoesThrough.cases (h : GoesThrough p e a b c d z) (wide : IsWide p e) :
    a.SharesNone c ∧ RunsAlongAxes [a, b, c, d, z] ∧ ¬ CrossesItself p [a, b, c, d, z] ∨
      ¬ a.SharesNone c ∧ ¬ RunsAlongAxes [a, b, c, d, z] ∧ CrossesItself p [a, b, c, d, z] := by
  obtain ⟨ha, hb, hc, hd, hz⟩ := h.atCorners
  have hruns : RunsAlongAxes [a, b, c, d, z] ↔ a.SharesOne b ∧ b.SharesOne c ∧ c.SharesOne d ∧ d.SharesOne z := by
    simp [RunsAlongAxes, segments_five]
  rw [hruns, ha.sharesNone_iff hc wide, ha.sharesOne_iff hb wide, hb.sharesOne_iff hc wide, hc.sharesOne_iff hd wide,
    hd.sharesOne_iff hz wide, h.closed, crossesItself_iff]
  have hnotOne {s t : Bool × Bool} (hst : IsDiagonal s t) : ¬ (IsUpright s t ∨ IsLevel s t) := by
    rintro (hup | hlevel)
    · exact hst.1 hup.1
    · exact hst.2 hlevel.2
  obtain ⟨hac, ⟨hab, hbc, hcd, hda⟩ | ⟨hab, hbc, hcd, hda⟩⟩ | ⟨hac, ⟨hab, hcd, -, -⟩ | ⟨hbc, hda, -, -⟩⟩ :=
    corner_orders _ _ _ _ h.order
  · refine .inl ⟨hac, ⟨.inl hab, .inr hbc, .inl hcd, .inr hda⟩, not_or.mpr ⟨?_, ?_⟩⟩
    · exact not_meets_of_isUpright ha hb hc hd wide hab hcd hac.1
    · refine not_meets_of_isLevel hb hc hd hz wide hbc (h.closed ▸ hda) fun hbd => hab.2 ?_
      rw [hbd, hda.2]
  · refine .inl ⟨hac, ⟨.inr hab, .inl hbc, .inr hcd, .inl hda⟩, not_or.mpr ⟨?_, ?_⟩⟩
    · exact not_meets_of_isLevel ha hb hc hd wide hab hcd hac.2
    · refine not_meets_of_isUpright hb hc hd hz wide hbc (h.closed ▸ hda) fun hbd => hab.1 ?_
      rw [hbd, hda.1]
  · exact .inr ⟨hac, fun hone => hnotOne hab hone.1, .inl (meets_of_isDiagonal ha hb hc hd wide hab hcd)⟩
  · refine .inr ⟨hac, fun hone => hnotOne hbc hone.2.1, .inr ?_⟩
    exact meets_of_isDiagonal hb hc hd hz wide hbc (h.closed ▸ hda)

/-- An extent that is not degenerate is wide, wherever numbers are placed. -/
theorem isWide_of_not_isDegenerate (p : Placement α) {l : List (Coord α)} (numbers : ∀ c ∈ l, c.IsNumber)
    (hull : Extent.ofCoords? l = some e) (wide : ¬ e.isDegenerate) : IsWide p e := by
  obtain ⟨hx, hy⟩ := isRange_of_ofCoords? (p := p) numbers hull
  simp only [Extent.isDegenerate, Bool.or_eq_true, not_or] at wide
  refine ⟨hx.ordered.resolve_left fun h => wide.1 ?_, hy.ordered.resolve_left fun h => wide.2 ?_⟩
  · rw [h]
    exact hx.upper
  · rw [h]
    exact hy.upper

omit [NumericOrder α] in
/-- Of a closed ring that is taken for a box and has some area, the first four points are the corners of its extent, and
no side is a point. Each side runs along one axis exactly when the first point and the third are opposite corners, and
the ring crosses itself exactly when some side does not. -/
theorem isBox_runs_around_iff [SortedInPlace α] (box : isBox ring) (closed : Polyline.isClosed ring)
    (hull : Extent.ofCoords? ring = some e) (wide : ¬ e.isDegenerate) :
    IsCornered ring ∧ (∀ side ∈ Polyline.segments ring, ¬ side.1 == side.2) ∧
      (RunsAlongAxes ring ↔ ∃ a c, ring[0]? = some a ∧ ring[2]? = some c ∧ a.SharesNone c) ∧
      ∀ p : Placement α, CrossesItself p ring ↔ ¬ RunsAlongAxes ring := by
  have hnumbers := isNumber_of_isBox box closed
  have hcornered := ((isBox_iff_isCornered hnumbers).mp box).1
  have hthrough (p : Placement α) : IsWide p e ∧ ∃ a b c d z, ring = [a, b, c, d, z] ∧ GoesThrough p e a b c d z := by
    have hwide := isWide_of_not_isDegenerate p hnumbers hull wide
    exact ⟨hwide, hcornered.goesThrough p hnumbers closed hull hwide⟩
  obtain ⟨p, -⟩ := SortedInPlace.exists_placement (α := α)
  refine ⟨hcornered, ?_, ?_, fun p => ?_⟩
  · obtain ⟨hwide, a, b, c, d, z, rfl, h⟩ := hthrough p
    exact h.not_beq hwide
  · obtain ⟨hwide, a, b, c, d, z, rfl, h⟩ := hthrough p
    have hends : (∃ a' c', [a, b, c, d, z][0]? = some a' ∧ [a, b, c, d, z][2]? = some c' ∧ a'.SharesNone c') ↔
        a.SharesNone c := by simp
    rw [hends]
    obtain ⟨hopposite, hruns, -⟩ | ⟨hopposite, hruns, -⟩ := h.cases hwide
    · exact iff_of_true hruns hopposite
    · exact iff_of_false hruns hopposite
  · obtain ⟨hwide, a, b, c, d, z, rfl, h⟩ := hthrough p
    obtain ⟨-, hruns, hcrosses⟩ | ⟨-, hruns, hcrosses⟩ := h.cases hwide
    · exact iff_of_false hcrosses (not_not.mpr hruns)
    · exact iff_of_true hcrosses hruns

/-- The ring around a square, drawn from corner to corner. -/
def squareAround : Polyline Rat := [⟨0, 0⟩, ⟨0, 10⟩, ⟨10, 10⟩, ⟨10, 0⟩, ⟨0, 0⟩]

/-- It is taken for a box, runs along the axes and does not cross itself. -/
theorem isBox_runs_around_square :
    isBox squareAround ∧ RunsAlongAxes squareAround ∧ ∀ p : Placement Rat, ¬ CrossesItself p squareAround := by
  have hbox : isBox squareAround := by decide +kernel
  have hclosed : Polyline.isClosed squareAround := by decide +kernel
  have hhull : Extent.ofCoords? squareAround = some ⟨0, 0, 10, 10⟩ := by decide +kernel
  obtain ⟨-, -, hruns, hcrosses⟩ := isBox_runs_around_iff hbox hclosed hhull (by decide +kernel)
  have hopposite : (⟨0, 0⟩ : Coord Rat).SharesNone ⟨10, 10⟩ := ⟨by decide +kernel, by decide +kernel⟩
  have hsquare : RunsAlongAxes squareAround := hruns.mpr ⟨_, _, rfl, rfl, hopposite⟩
  exact ⟨hbox, hsquare, fun p => mt (hcrosses p).mp (not_not.mpr hsquare)⟩

/-- The corners of a square, drawn along its diagonals and two of its sides. -/
def squareCrossed : Polyline Rat := [⟨0, 0⟩, ⟨10, 10⟩, ⟨10, 0⟩, ⟨0, 10⟩, ⟨0, 0⟩]

/-- This ring is taken for a box too, though it does not run along the axes and crosses itself. -/
theorem isBox_squareCrossed :
    isBox squareCrossed ∧ Polyline.isClosed squareCrossed ∧
      Extent.ofCoords? squareCrossed = some ⟨0, 0, 10, 10⟩ ∧ ¬ (⟨0, 0, 10, 10⟩ : Extent Rat).isDegenerate ∧
      ¬ RunsAlongAxes squareCrossed ∧ ∀ p : Placement Rat, CrossesItself p squareCrossed := by
  refine ⟨by decide +kernel, by decide +kernel, by decide +kernel, by decide +kernel, fun hruns => ?_, fun p => ?_⟩
  · have hfirst : (⟨0, 0⟩ : Coord Rat).SharesOne ⟨10, 10⟩ := hruns (⟨0, 0⟩, ⟨10, 10⟩) List.mem_cons_self
    exact hfirst (by decide +kernel)
  · exact crossesItself_iff.mpr (.inl (Placement.meets_of_middle (add_comm _ _) rfl))

end Ring

end AreaOfInterest
