import AreaOfInterest.Proofs.Boxes
import AreaOfInterest.Proofs.Conversions
import AreaOfInterest.Proofs.ExactExtents
import Mathlib.Order.Bounds.Basic

/-!
# Boxes and their corners

With exact scalars the extent of some positions has the least and the greatest of their coordinates for its limits. It
depends on which positions there are, and on nothing else. So a ring is a box exactly when its first four points are,
in whichever order, the corners of its extent.

A closed box with some area is known by any of its corners and the opposite one, with which that corner shares neither
coordinate. Carrying a corner to another place, with the coordinates that it shares, gives the box between that place
and the opposite corner.
-/

namespace AreaOfInterest

open Exact

variable {α : Type} [Scalar α]

/-- Two positions share neither coordinate. -/
def Coord.Apart (c d : Coord α) : Prop := c.x ≠ d.x ∧ c.y ≠ d.y

namespace Exact

variable [Exact α] [NumericOrder α]

/-- The smaller of two scalars on the real line. -/
theorem real_min (x y : α) : real (min x y) = min (real x) (real y) := by
  rw [NumericOrder.min_eq ((beq_iff x x).mpr rfl) ((beq_iff y y).mpr rfl)]
  split
  · next h => exact (min_eq_right ((lt_iff _ _).mp h).le).symm
  · next h => exact (min_eq_left (not_lt.mp fun h' => h ((lt_iff _ _).mpr h'))).symm

/-- The larger of two scalars on the real line. -/
theorem real_max (x y : α) : real (max x y) = max (real x) (real y) := by
  rw [NumericOrder.max_eq ((beq_iff x x).mpr rfl) ((beq_iff y y).mpr rfl)]
  split
  · next h => exact (max_eq_right ((lt_iff _ _).mp h).le).symm
  · next h => exact (max_eq_left (not_lt.mp fun h' => h ((lt_iff _ _).mpr h'))).symm

omit [NumericOrder α] in
/-- With exact scalars every position is given by numbers. -/
theorem isNumber (c : Coord α) : c.IsNumber := ⟨(beq_iff _ _).mpr rfl, (beq_iff _ _).mpr rfl⟩

end Exact

namespace Extent

/-- The extent with two positions for its corners, its limits in whichever order. -/
def between (c o : Coord α) : Extent α := ⟨c.x, c.y, o.x, o.y⟩

/-- An extent has the least and the greatest coordinates of some positions for its limits. -/
structure IsHullOf [Exact α] (e : Extent α) (s : Set (Coord α)) : Prop where
  minX : IsLeast ((fun c => real c.x) '' s) (real e.minX)
  minY : IsLeast ((fun c => real c.y) '' s) (real e.minY)
  maxX : IsGreatest ((fun c => real c.x) '' s) (real e.maxX)
  maxY : IsGreatest ((fun c => real c.y) '' s) (real e.maxY)

variable [Exact α] {e e' : Extent α} {s : Set (Coord α)} {coords coords' : List (Coord α)}

/-- Positions have one hull at most. -/
theorem IsHullOf.unique (h : e.IsHullOf s) (h' : e'.IsHullOf s) : e = e' :=
  eq_of_real (h.minX.unique h'.minX) (h.minY.unique h'.minY) (h.maxX.unique h'.maxX) (h.maxY.unique h'.maxY)

/-- One position is its own hull. -/
theorem isHullOf_ofCoord (c : Coord α) : (ofCoord c).IsHullOf {c} := by
  constructor <;> rw [Set.image_singleton]
  · exact isLeast_singleton
  · exact isLeast_singleton
  · exact isGreatest_singleton
  · exact isGreatest_singleton

/-- With no area an extent has two limits that agree. -/
theorem isDegenerate_iff : e.isDegenerate ↔ e.minX = e.maxX ∨ e.minY = e.maxY := by
  rw [isDegenerate, Bool.or_eq_true, beq_iff, beq_iff]

/-- Positions on one vertical have no area. -/
theorem IsHullOf.isDegenerate_of_x (h : e.IsHullOf s) (x : α) (same : ∀ c ∈ s, c.x = x) : e.isDegenerate := by
  obtain ⟨c, hc, hmin⟩ := h.minX.1
  obtain ⟨d, hd, hmax⟩ := h.maxX.1
  have hsame : real c.x = real d.x := by rw [same c hc, same d hd]
  exact isDegenerate_iff.mpr (.inl (real_injective ((hmin.symm.trans hsame).trans hmax)))

/-- Positions on one horizontal have no area. -/
theorem IsHullOf.isDegenerate_of_y (h : e.IsHullOf s) (y : α) (same : ∀ c ∈ s, c.y = y) : e.isDegenerate := by
  obtain ⟨c, hc, hmin⟩ := h.minY.1
  obtain ⟨d, hd, hmax⟩ := h.maxY.1
  have hsame : real c.y = real d.y := by rw [same c hc, same d hd]
  exact isDegenerate_iff.mpr (.inr (real_injective ((hmin.symm.trans hsame).trans hmax)))

/-- Two positions are no further apart than their hull is wide and tall. -/
theorem IsHullOf.abs_sub_le {c d : Coord α} (h : e.IsHullOf s) (hc : c ∈ s) (hd : d ∈ s) :
    |real c.x - real d.x| ≤ real e.width ∧ |real c.y - real d.y| ≤ real e.height := by
  have hheight : real e.height = real e.maxY - real e.minY := real_sub _ _
  rw [real_width, hheight, abs_sub_le_iff, abs_sub_le_iff]
  have hcx := h.minX.2 ⟨c, hc, rfl⟩
  have hdx := h.minX.2 ⟨d, hd, rfl⟩
  have hcx' := h.maxX.2 ⟨c, hc, rfl⟩
  have hdx' := h.maxX.2 ⟨d, hd, rfl⟩
  have hcy := h.minY.2 ⟨c, hc, rfl⟩
  have hdy := h.minY.2 ⟨d, hd, rfl⟩
  have hcy' := h.maxY.2 ⟨c, hc, rfl⟩
  have hdy' := h.maxY.2 ⟨d, hd, rfl⟩
  dsimp only at hcx hdx hcx' hdx' hcy hdy hcy' hdy'
  constructor <;> constructor <;> linarith

variable [NumericOrder α]

/-- A hull grows with the positions. -/
theorem IsHullOf.insert (h : e.IsHullOf s) (c : Coord α) : (e.insert c).IsHullOf (Insert.insert c s) := by
  constructor <;> rw [Set.image_insert_eq, Extent.insert]
  · rw [real_min, min_comm]
    exact h.minX.insert _
  · rw [real_min, min_comm]
    exact h.minY.insert _
  · rw [real_max, max_comm]
    exact h.maxX.insert _
  · rw [real_max, max_comm]
    exact h.maxY.insert _

/-- It grows with several positions, one by one. -/
theorem IsHullOf.foldl_insert (h : e.IsHullOf s) (coords : List (Coord α)) :
    (coords.foldl Extent.insert e).IsHullOf (s ∪ {c | c ∈ coords}) := by
  induction coords generalizing e s with
  | nil => simpa using h
  | cons c coords ih =>
    have hset : s ∪ {d | d ∈ c :: coords} = Insert.insert c s ∪ {d | d ∈ coords} := by
      ext d
      simp only [Set.mem_union, Set.mem_ofPred_eq, List.mem_cons, Set.mem_insert_iff]
      tauto
    rw [List.foldl_cons, hset]
    exact ih (h.insert c)

/-- The extent of a list of positions is their hull. -/
theorem ofCoords?_eq_some_iff : ofCoords? coords = some e ↔ e.IsHullOf {c | c ∈ coords} := by
  cases coords with
  | nil =>
    refine ⟨fun h => (by cases h), fun h => ?_⟩
    obtain ⟨c, hc, -⟩ := h.minX.1
    cases hc
  | cons c rest =>
    have hset : {d | d ∈ c :: rest} = {c} ∪ {d | d ∈ rest} := by
      ext d
      simp
    have hhull := (isHullOf_ofCoord c).foldl_insert rest
    rw [← hset] at hhull
    rw [ofCoords?, Option.some.injEq]
    exact ⟨fun h => h ▸ hhull, fun h => hhull.unique h⟩

/-- Lists of the same positions have the same extent. -/
theorem ofCoords?_congr (h : ∀ c, c ∈ coords ↔ c ∈ coords') : ofCoords? coords = ofCoords? coords' := by
  have hset : {c | c ∈ coords} = {c | c ∈ coords'} := Set.ext h
  refine Option.ext fun e => ?_
  rw [ofCoords?_eq_some_iff, ofCoords?_eq_some_iff, hset]

/-- With its limits in order, too, an extent has no area when they agree on an axis. -/
theorem isDegenerate_inOrder : e.inOrder.isDegenerate ↔ e.minX = e.maxX ∨ e.minY = e.maxY := by
  have hlimits (x y : α) : min x y = max x y ↔ x = y := by
    refine ⟨fun h => real_injective ?_, fun h => real_injective ?_⟩
    · have hreal := congrArg real h
      rw [real_min, real_max] at hreal
      exact inf_eq_sup.mp hreal
    · rw [h, real_min, real_max, min_self, max_self]
  rw [isDegenerate_iff, inOrder, hlimits, hlimits]

end Extent

namespace Ring

/-- A closed ring has for its first four points, in whichever order, the corners of the rectangle between two opposite
ones. -/
structure IsBoxBetween (ring : Polyline α) (c o : Coord α) : Prop where
  apart : c.Apart o
  closed : Polyline.isClosed ring
  length : ring.length = 5
  corners : (ring.take 4).Perm ((Extent.between c o).ring.take 4)

/-- A position after another one was carried to the target, with the coordinates that the two share. -/
def carry (origin target c : Coord α) : Coord α :=
  ⟨if c.x == origin.x then target.x else c.x, if c.y == origin.y then target.y else c.y⟩

variable [Exact α] {ring : Polyline α} {c o : Coord α}

/-- A position is carried to the target from where it was. -/
theorem carry_self (c target : Coord α) : carry c target c = target := by
  have := Exact.lawfulBEq α
  simp [carry]

/-- A position that shares no coordinate is not carried. -/
theorem carry_of_apart (apart : c.Apart o) (target : Coord α) : carry c target o = o := by
  have := Exact.lawfulBEq α
  simp [carry, apart.1.symm, apart.2.symm]

/-- The points of a closed ring are its first four, if there are five. -/
theorem mem_iff_of_isClosed (closed : Polyline.isClosed ring) (length : ring.length = 5) :
    c ∈ ring ↔ c ∈ ring.take 4 := by
  have := Exact.lawfulBEq α
  obtain ⟨p, rest, rfl⟩ := List.exists_cons_of_length_eq_add_one length
  obtain ⟨q, r, s, t, rfl⟩ := List.length_eq_four.mp (Nat.succ.inj length)
  have hends : some p = some t := eq_of_beq closed
  cases hends
  simp only [List.take, List.mem_cons, List.not_mem_nil, or_false]
  tauto

omit [Scalar α] [Exact α] in
/-- The corners between two positions have the coordinates of either. -/
theorem mem_corners_between {d : Coord α} :
    d ∈ (Extent.between c o).ring.take 4 ↔ (d.x = c.x ∨ d.x = o.x) ∧ (d.y = c.y ∨ d.y = o.y) := by
  obtain ⟨x, y⟩ := d
  simp only [Extent.between, Extent.ring, List.take, List.mem_cons, List.not_mem_nil, or_false, Coord.mk.injEq]
  tauto

/-- What is carried nowhere stays. -/
theorem carry_target (c d : Coord α) : carry c c d = d := by
  have := Exact.lawfulBEq α
  obtain ⟨x, y⟩ := d
  simp only [carry, beq_iff_eq, Coord.mk.injEq]
  constructor <;> split <;> simp_all

namespace IsBoxBetween

/-- The points of a box have the coordinates of two opposite corners. -/
theorem mem_iff (h : IsBoxBetween ring c o) {d : Coord α} :
    d ∈ ring ↔ (d.x = c.x ∨ d.x = o.x) ∧ (d.y = c.y ∨ d.y = o.y) := by
  rw [mem_iff_of_isClosed h.closed h.length, h.corners.mem_iff, mem_corners_between]

/-- The corner is on the ring. -/
theorem corner_mem (h : IsBoxBetween ring c o) : c ∈ ring := h.mem_iff.mpr ⟨.inl rfl, .inl rfl⟩

/-- Corners are carried as one, to a place that is apart from the opposite one. -/
theorem carry (h : IsBoxBetween ring c o) {target : Coord α} (apart : target.Apart o) :
    IsBoxBetween (ring.map (Ring.carry c target)) target o := by
  have := Exact.lawfulBEq α
  refine ⟨apart, Polyline.isClosed_map h.closed _, by rw [List.length_map, h.length], ?_⟩
  have hcorners : (Extent.between target o).ring.take 4 =
      ((Extent.between c o).ring.take 4).map (Ring.carry c target) := by
    simp [Extent.between, Extent.ring, Ring.carry, h.apart.1.symm, h.apart.2.symm]
  rw [hcorners, ← List.map_take]
  exact h.corners.map _

/-- Corners that are carried twice, the first time to a place apart from the opposite one, are carried once. -/
theorem map_carry_carry (h : IsBoxBetween ring c o) {between : Coord α} (apart : between.Apart o) (target : Coord α) :
    (ring.map (Ring.carry c between)).map (Ring.carry between target) = ring.map (Ring.carry c target) := by
  have := Exact.lawfulBEq α
  rw [List.map_map]
  refine List.map_congr_left fun d hd => ?_
  obtain ⟨x, y⟩ := d
  obtain ⟨hx, hy⟩ := h.mem_iff.mp hd
  dsimp only at hx hy
  simp only [Function.comp_apply, Ring.carry, Coord.mk.injEq]
  constructor
  · obtain rfl | rfl := hx
    · simp
    · simp [h.apart.1.symm, apart.1.symm]
  · obtain rfl | rfl := hy
    · simp
    · simp [h.apart.2.symm, apart.2.symm]

variable [NumericOrder α]

/-- The extent of a box whose points are moved on each axis by itself. -/
theorem ofCoords?_map (h : IsBoxBetween ring c o) (f g : α → α) :
    Extent.ofCoords? (ring.map fun d => ⟨f d.x, g d.y⟩) = some ((Extent.between c o).mapAxes f g).inOrder := by
  have hclosed : Polyline.isClosed (Extent.between c o).ring := by
    have := Exact.lawfulBEq α
    simp [Polyline.isClosed, Extent.ring]
  have hmem (d : Coord α) : d ∈ ring ↔ d ∈ (Extent.between c o).ring := by
    rw [h.mem_iff, mem_iff_of_isClosed hclosed rfl, mem_corners_between]
  rw [← Extent.ofCoords?_ring (isNumber _) (isNumber _), ← map_ring]
  refine Extent.ofCoords?_congr fun d => ?_
  simp only [List.mem_map, hmem]

/-- The extent of a box is the one between two opposite corners. -/
theorem ofCoords?_eq (h : IsBoxBetween ring c o) :
    Extent.ofCoords? ring = some (Extent.between c o).inOrder := by
  have hmap := h.ofCoords?_map id id
  rwa [show (fun d : Coord α => (⟨id d.x, id d.y⟩ : Coord α)) = id from rfl, List.map_id] at hmap

end IsBoxBetween

variable [NumericOrder α]

/-- Sorting tells whether two lists have the same positions. -/
theorem sorted_beq_sorted_iff {l m : List (Coord α)} : sorted l == sorted m ↔ l.Perm m := by
  have := Exact.lawfulBEq α
  rw [beq_iff_eq]
  refine ⟨fun h => ?_, sorted_eq_of_perm⟩
  exact (perm_sorted l).symm.trans (h ▸ perm_sorted m)

/-- A box has the corners of its extent for its first four points. -/
theorem isBox_iff :
    isBox ring ↔ ∃ e, Extent.ofCoords? ring = some e ∧ ring.length = 5 ∧ (ring.take 4).Perm (e.ring.take 4) := by
  unfold isBox
  cases Extent.ofCoords? ring with
  | none => simp
  | some e => simp [sorted_beq_sorted_iff]

/-- Putting the limits in order leaves an extent its corners. -/
theorem perm_corners_inOrder (e : Extent α) : (e.ring.take 4).Perm (e.inOrder.ring.take 4) := by
  have hself (x : α) : x == x := (beq_iff x x).mpr rfl
  have heq {x y : α} : x == y → x = y := (beq_iff x y).mp
  exact Extent.perm_corners (Extent.limits_cases (hself _) (hself _) heq)
    (Extent.limits_cases (hself _) (hself _) heq)

/-- A ring around the rectangle between two corners is a box. -/
theorem IsBoxBetween.isBox (h : IsBoxBetween ring c o) : isBox ring :=
  isBox_iff.mpr ⟨_, h.ofCoords?_eq, h.length, h.corners.trans (perm_corners_inOrder _)⟩

/-- A closed box with some area lies between any of its corners and the opposite one. -/
theorem exists_isBoxBetween {e : Extent α} (box : isBox ring) (closed : Polyline.isClosed ring)
    (hull : Extent.ofCoords? ring = some e) (wide : ¬ e.isDegenerate) (corner : c ∈ ring) :
    ∃ o, IsBoxBetween ring c o := by
  obtain ⟨e', he', hlength, hperm⟩ := isBox_iff.mp box
  cases hull.symm.trans he'
  rw [Extent.isDegenerate_iff, not_or] at wide
  obtain ⟨hx, hy⟩ := wide
  rw [mem_iff_of_isClosed closed hlength, hperm.mem_iff] at corner
  obtain ⟨hcx, hcy⟩ := Extent.limits_of_mem_corners corner
  obtain ⟨x, hx', hapartX⟩ : ∃ x, (c.x = e.minX ∧ x = e.maxX ∨ c.x = e.maxX ∧ x = e.minX) ∧ c.x ≠ x := by
    obtain h | h := hcx
    · exact ⟨e.maxX, .inl ⟨h, rfl⟩, h ▸ hx⟩
    · exact ⟨e.minX, .inr ⟨h, rfl⟩, h ▸ Ne.symm hx⟩
  obtain ⟨y, hy', hapartY⟩ : ∃ y, (c.y = e.minY ∧ y = e.maxY ∨ c.y = e.maxY ∧ y = e.minY) ∧ c.y ≠ y := by
    obtain h | h := hcy
    · exact ⟨e.maxY, .inl ⟨h, rfl⟩, h ▸ hy⟩
    · exact ⟨e.minY, .inr ⟨h, rfl⟩, h ▸ Ne.symm hy⟩
  exact ⟨⟨x, y⟩, ⟨hapartX, hapartY⟩, closed, hlength, hperm.trans (Extent.perm_corners hx' hy')⟩

end Ring

end AreaOfInterest
