import AreaOfInterest.Proofs.BoxCorners

/-!
# One step of a drag

What becomes of a ring when the pointer moves once with one of its vertices. A closed box that is wider and taller than
the tolerance for corners is a box again, between the target and the corner opposite to the dragged one, and the move is
refused exactly when these two share a coordinate. Of any other ring the dragged vertex alone is replaced, and the move
is refused exactly when the result has no width or no height.

A closed box within the tolerance on either axis is not moved at all. All its corners count as the dragged one on that
axis, so that every move would leave it without area.
-/

namespace AreaOfInterest

open Exact

variable {α : Type} [Scalar α]

namespace Ring

/-- A ring after one of its vertices was replaced by the target. -/
structure IsReplaced (ring moved : Polyline α) (vertex : Nat) (target : Coord α) : Prop where
  length : moved.length = ring.length
  closed : Polyline.isClosed ring → Polyline.isClosed moved
  replaced (j : Nat) : SameVertex ring vertex j → moved[j]? = some target
  kept (j : Nat) : ¬ SameVertex ring vertex j → moved[j]? = ring[j]?

/-- A box after one of its corners was carried to the target, with the coordinates that others share with it. -/
structure IsCarried (ring moved : Polyline α) (drag : VertexDrag α) (opposite target : Coord α) : Prop where
  box : isBox moved
  closed : Polyline.isClosed moved
  length : moved.length = 5
  vertex : moved[drag.vertex]? = some target
  opposite (j : Nat) : ring[j]? = some opposite → moved[j]? = some opposite
  eq_map : moved = ring.map (carry drag.coordinate target)

/-- A ring is closed when it has the same point at either end. -/
theorem isClosed_iff_getElem? [LawfulBEq α] {ring : Polyline α} :
    Polyline.isClosed ring ↔ ring[0]? = ring[ring.length - 1]? := by
  rw [Polyline.isClosed, beq_iff_eq, List.head?_eq_getElem?, List.getLast?_eq_getElem?]

/-- Replacing a vertex is what is meant by it. -/
theorem isReplaced_moveVertex [LawfulBEq α] {ring : Polyline α} {i : Nat} (hlt : i < ring.length) (target : Coord α) :
    IsReplaced ring (moveVertex ring i target) i target where
  length := length_moveVertex ring i target
  closed hclosed := isClosed_moveVertex hclosed i (beq_self_eq_true target)
  replaced j := (getElem?_moveVertex_eq hlt target j).1
  kept j := (getElem?_moveVertex_eq hlt target j).2

/-- What is one value on a condition is none without it. -/
theorem eq_none_iff_not {β : Type} {o : Option β} {p : Prop} {b : β} (h : ∀ a, o = some a ↔ p ∧ a = b) :
    o = none ↔ ¬ p := by
  cases o with
  | none => simpa using h b
  | some a => simpa using ((h a).mp rfl).1

/-- A ring that is no box is moved by its vertex, unless that leaves no area. -/
theorem drag?_of_not_isBox {ring moved : Polyline α} {drag : VertexDrag α} {target : Coord α} (free : ¬ isBox ring) :
    drag? ring drag target = some moved ↔
      moved = moveVertex ring drag.vertex target ∧ ∃ e, Extent.ofCoords? moved = some e ∧ ¬ e.isDegenerate := by
  simp only [drag?, if_neg free]
  cases hhull : Extent.ofCoords? (moveVertex ring drag.vertex target) with
  | none =>
    refine ⟨fun h => (by cases h), ?_⟩
    rintro ⟨rfl, e, he, -⟩
    cases hhull.symm.trans he
  | some e =>
    dsimp only
    by_cases hflat : e.isDegenerate
    · simp only [hflat, if_true, reduceCtorEq, false_iff]
      rintro ⟨rfl, e', he', hwide⟩
      cases hhull.symm.trans he'
      exact hwide hflat
    · rw [if_neg hflat, Option.some.injEq]
      constructor
      · rintro rfl
        exact ⟨rfl, e, hhull, hflat⟩
      · rintro ⟨rfl, -⟩
        rfl

variable [Exact α] [ExactDistance α]

/-- Two values count as the same when they are no further apart than the tolerance. -/
theorem close_iff {a b : α} : close a b ↔ |real a - real b| ≤ real (cornerEpsilon : α) := by
  rw [close, decide_eq_true_eq, le_iff, ExactDistance.real_abs, real_sub]

omit [ExactDistance α] in
/-- There is some tolerance. -/
theorem real_cornerEpsilon_pos : 0 < real (cornerEpsilon : α) := by
  rw [cornerEpsilon, real_ofScientific]
  norm_num

/-- A value counts as itself. -/
theorem close_self_of_exact (a : α) : close a a := by
  rw [close_iff, sub_self, abs_zero]
  exact real_cornerEpsilon_pos.le

variable {ring moved : Polyline α} {drag : VertexDrag α} {c o target : Coord α}

omit [ExactDistance α] in
/-- What is wider and taller than the tolerance has some area. -/
theorem not_isDegenerate_of_wide {e : Extent α} (wide : cornerEpsilon < e.width) (tall : cornerEpsilon < e.height) :
    ¬ e.isDegenerate := by
  rw [lt_iff, Extent.width, real_sub] at wide
  rw [lt_iff, Extent.height, real_sub] at tall
  rw [Extent.isDegenerate_iff]
  rintro (h | h)
  · linarith [congrArg real h, real_cornerEpsilon_pos (α := α)]
  · linarith [congrArg real h, real_cornerEpsilon_pos (α := α)]

variable [NumericOrder α]

/-- A box within the tolerance on either axis is not moved. -/
theorem drag?_of_narrow {e : Extent α} (box : isBox ring) (hull : Extent.ofCoords? ring = some e)
    (corner : drag.coordinate ∈ ring) (narrow : ¬ (cornerEpsilon < e.width ∧ cornerEpsilon < e.height)) :
    drag? ring drag target = none := by
  have hhull := Extent.ofCoords?_eq_some_iff.mp hull
  cases hmoves : drag? ring drag target with
  | none => rfl
  | some moved =>
    obtain ⟨rfl, e', he', hwide⟩ := drag?_of_isBox box hmoves
    have hmoved := Extent.ofCoords?_eq_some_iff.mp he'
    refine absurd ?_ hwide
    rw [not_and_or, lt_iff cornerEpsilon, lt_iff cornerEpsilon, not_lt, not_lt] at narrow
    obtain hnarrow | hnarrow := narrow
    · refine hmoved.isDegenerate_of_x target.x (List.forall_mem_map.mpr fun c hc => ?_)
      exact if_pos (close_iff.mpr ((hhull.abs_sub_le hc corner).1.trans hnarrow))
    · refine hmoved.isDegenerate_of_y target.y (List.forall_mem_map.mpr fun c hc => ?_)
      exact if_pos (close_iff.mpr ((hhull.abs_sub_le hc corner).2.trans hnarrow))

omit [NumericOrder α] in
/-- With its sides apart, a box is moved by carrying its corner. -/
theorem IsBoxBetween.map_moveCorner (h : IsBoxBetween ring c o) (apartX : ¬ close o.x c.x) (apartY : ¬ close o.y c.y)
    (target : Coord α) : ring.map (moveCorner c target) = ring.map (Ring.carry c target) := by
  have := Exact.lawfulBEq α
  refine List.map_congr_left fun d hd => ?_
  obtain ⟨hdx, hdy⟩ := h.mem_iff.mp hd
  obtain ⟨x, y⟩ := d
  have hx : (if close x c.x then target.x else x) = if x == c.x then target.x else x := by
    obtain rfl | rfl := hdx
    · simp [close_self_of_exact]
    · simp [apartX, h.apart.1.symm]
  have hy : (if close y c.y then target.y else y) = if y == c.y then target.y else y := by
    obtain rfl | rfl := hdy
    · simp [close_self_of_exact]
    · simp [apartY, h.apart.2.symm]
  simp only [moveCorner, Ring.carry, hx, hy]

/-- A moved box has no area when its sides are within the tolerance, or the target is on one of the opposite ones. -/
theorem IsBoxBetween.ofCoords?_moveCorner (h : IsBoxBetween ring c o) (target : Coord α) :
    ∃ e, Extent.ofCoords? (ring.map (moveCorner c target)) = some e ∧
      (e.isDegenerate ↔ (close o.x c.x ∨ target.x = o.x) ∨ close o.y c.y ∨ target.y = o.y) := by
  let f := fun x => if close x c.x then target.x else x
  let g := fun y => if close y c.y then target.y else y
  refine ⟨_, h.ofCoords?_map f g, ?_⟩
  rw [Extent.isDegenerate_inOrder]
  simp only [Extent.between, Extent.mapAxes, f, g, close_self_of_exact, if_true]
  refine or_congr ?_ ?_
  · split <;> simp [*]
  · split <;> simp [*]

/-- A box is moved by carrying the dragged corner, unless its sides are within the tolerance, or the target shares a
coordinate with the opposite corner. -/
theorem drag?_of_isBoxBetween (h : IsBoxBetween ring c o) (corner : drag.coordinate = c) :
    drag? ring drag target = some moved ↔
      (¬ close o.x c.x ∧ ¬ close o.y c.y ∧ target.Apart o) ∧ moved = ring.map (carry c target) := by
  obtain ⟨e, he, hflat⟩ := h.ofCoords?_moveCorner target
  have hdrag : drag? ring drag target = if e.isDegenerate then none else some (ring.map (moveCorner c target)) := by
    simp only [drag?, h.isBox, if_true, corner, he]
  rw [hdrag]
  by_cases hwide : ¬ close o.x c.x ∧ ¬ close o.y c.y ∧ target.Apart o
  · obtain ⟨hx, hy, hapart⟩ := hwide
    have harea : ¬ e.isDegenerate := by
      rw [hflat]
      exact fun h => h.elim (·.elim hx hapart.1) (·.elim hy hapart.2)
    rw [if_neg harea, h.map_moveCorner hx hy]
    simp [hx, hy, hapart, eq_comm]
  · have hnone : e.isDegenerate := by
      rw [hflat]
      unfold Coord.Apart at hwide
      tauto
    rw [if_pos hnone]
    simp only [hwide, false_and, reduceCtorEq]

/-- The sides of a box are within the tolerance when those of its extent are. -/
theorem IsBoxBetween.close_iff {e : Extent α} (h : IsBoxBetween ring c o) (hull : Extent.ofCoords? ring = some e) :
    (close o.x c.x ↔ ¬ cornerEpsilon < e.width) ∧ (close o.y c.y ↔ ¬ cornerEpsilon < e.height) := by
  cases h.ofCoords?_eq.symm.trans hull
  have hsize (x y : α) : close y x ↔ ¬ cornerEpsilon < max x y - min x y := by
    rw [Ring.close_iff, lt_iff, not_lt, real_sub, real_max, real_min, max_sub_min_eq_abs]
  exact ⟨hsize _ _, hsize _ _⟩

omit [ExactDistance α] in
/-- A box is moved to one between the target and the corner that was opposite. -/
theorem isCarried_map (h : IsBoxBetween ring drag.coordinate o) (there : ring[drag.vertex]? = some drag.coordinate)
    (apart : target.Apart o) : IsCarried ring (ring.map (carry drag.coordinate target)) drag o target where
  box := (h.carry apart).isBox
  closed := (h.carry apart).closed
  length := (h.carry apart).length
  vertex := by rw [List.getElem?_map, there, Option.map_some, carry_self]
  opposite j hj := by rw [List.getElem?_map, hj, Option.map_some, carry_of_apart h.apart]
  eq_map := rfl

/-- A closed box that is wider and taller than the tolerance is moved by any corner, unless the target shares a
coordinate with the opposite one. -/
theorem exists_opposite {e : Extent α} (box : isBox ring) (closed : Polyline.isClosed ring)
    (hull : Extent.ofCoords? ring = some e) (wide : cornerEpsilon < e.width) (tall : cornerEpsilon < e.height)
    (corner : drag.coordinate ∈ ring) :
    ∃ o, IsBoxBetween ring drag.coordinate o ∧ ∀ target moved,
      drag? ring drag target = some moved ↔ target.Apart o ∧ moved = ring.map (carry drag.coordinate target) := by
  obtain ⟨o, hbetween⟩ := exists_isBoxBetween box closed hull (not_isDegenerate_of_wide wide tall) corner
  obtain ⟨hcloseX, hcloseY⟩ := hbetween.close_iff hull
  refine ⟨o, hbetween, fun target moved => ?_⟩
  rw [drag?_of_isBoxBetween hbetween rfl]
  have hx : ¬ close o.x drag.coordinate.x := fun h => hcloseX.mp h wide
  have hy : ¬ close o.y drag.coordinate.y := fun h => hcloseY.mp h tall
  exact and_congr_left fun _ => ⟨fun h => h.2.2, fun h => ⟨hx, hy, h⟩⟩

omit [ExactDistance α] [NumericOrder α] in
/-- A ring that is no box is moved by its vertex, unless the result has no width or no height. -/
theorem exists_replaced (free : ¬ isBox ring) (hlt : drag.vertex < ring.length) (target : Coord α) :
    ∃ e, Extent.ofCoords? (moveVertex ring drag.vertex target) = some e ∧ ∀ moved,
      drag? ring drag target = some moved ↔
        ¬ (e.width = 0.0 ∨ e.height = 0.0) ∧ moved = moveVertex ring drag.vertex target := by
  obtain ⟨e, he⟩ : ∃ e, Extent.ofCoords? (moveVertex ring drag.vertex target) = some e := by
    cases hmoved : moveVertex ring drag.vertex target with
    | nil =>
      rw [← length_moveVertex ring drag.vertex target, hmoved] at hlt
      cases hlt
    | cons c rest => exact ⟨_, rfl⟩
  have hsize : e.isDegenerate ↔ e.width = 0.0 ∨ e.height = 0.0 := by
    have hzero (x y : α) : y - x = 0.0 ↔ x = y := by
      rw [← real_injective.eq_iff, real_sub, real_zero, sub_eq_zero, eq_comm, real_injective.eq_iff]
    rw [Extent.isDegenerate_iff, Extent.width, Extent.height, hzero, hzero]
  refine ⟨e, he, fun moved => ?_⟩
  rw [drag?_of_not_isBox free, ← hsize, and_comm]
  refine and_congr_left fun hmoved => ?_
  rw [hmoved, he]
  simp

/-- A closed box that is wider and taller than the tolerance is moved to one with the opposite corner in its place,
unless the target shares a coordinate with that corner. In a ring that is no box the dragged vertex is replaced, unless
the result has no width or no height. -/
theorem drags_exactly (there : ring[drag.vertex]? = some drag.coordinate) (target : Coord α) :
    (∀ e, isBox ring → Polyline.isClosed ring → Extent.ofCoords? ring = some e →
      cornerEpsilon < e.width → cornerEpsilon < e.height →
      ∃ opposite, IsBoxBetween ring drag.coordinate opposite ∧
        (drag? ring drag target = none ↔ target.x = opposite.x ∨ target.y = opposite.y) ∧
        ∀ moved, drag? ring drag target = some moved → IsCarried ring moved drag opposite target) ∧
    (¬ isBox ring → ∃ replaced e, IsReplaced ring replaced drag.vertex target ∧
      Extent.ofCoords? replaced = some e ∧
      (drag? ring drag target = none ↔ e.width = 0.0 ∨ e.height = 0.0) ∧
      ∀ moved, drag? ring drag target = some moved → moved = replaced) := by
  constructor
  · intro e box closed hull wide tall
    obtain ⟨o, hbetween, hmoves⟩ := exists_opposite box closed hull wide tall (List.mem_of_getElem? there)
    refine ⟨o, hbetween, ?_, fun moved hmoved => ?_⟩
    · rw [eq_none_iff_not (hmoves target), Coord.Apart, not_and_or, not_not, not_not]
    · obtain ⟨hapart, rfl⟩ := (hmoves _ _).mp hmoved
      exact isCarried_map hbetween there hapart
  · intro free
    have := Exact.lawfulBEq α
    have hlt : drag.vertex < ring.length := (List.getElem?_eq_some_iff.mp there).1
    obtain ⟨e, he, hmoves⟩ := exists_replaced free hlt target
    refine ⟨_, e, isReplaced_moveVertex hlt target, he, ?_, fun moved hmoved => ((hmoves moved).mp hmoved).2⟩
    rw [eq_none_iff_not hmoves, not_not]

/-- A box of ten by ten. -/
def square : Polyline Rat := Extent.ring ⟨0, 0, 10, 10⟩

/-- A ring that is no box, as one of its corners is out of place. -/
def kite : Polyline Rat := [⟨0, 0⟩, ⟨0, 10⟩, ⟨14, 7⟩, ⟨10, 0⟩, ⟨0, 0⟩]

/-- The third corner of the box is dragged. -/
def squareCorner : VertexDrag Rat := ⟨0, 0, 2, ⟨10, 10⟩⟩

/-- The corner that is out of place is dragged. -/
def kiteCorner : VertexDrag Rat := ⟨0, 0, 2, ⟨14, 7⟩⟩

/-- The corner of the box takes its neighbours along, and the one that is out of place does not. -/
theorem drags_exactly_square :
    square[squareCorner.vertex]? = some squareCorner.coordinate ∧ kite[kiteCorner.vertex]? = some kiteCorner.coordinate ∧
    (∃ opposite, IsBoxBetween square ⟨10, 10⟩ opposite ∧ ∀ moved,
      drag? square squareCorner ⟨20, 30⟩ = some moved → IsCarried square moved squareCorner opposite ⟨20, 30⟩) ∧
    ∃ replaced e, IsReplaced kite replaced 2 ⟨3, 4⟩ ∧ Extent.ofCoords? replaced = some e ∧
      (drag? kite kiteCorner ⟨3, 4⟩ = none ↔ e.width = 0.0 ∨ e.height = 0.0) := by
  have hsquare : square[squareCorner.vertex]? = some squareCorner.coordinate := by decide +kernel
  have hkite : kite[kiteCorner.vertex]? = some kiteCorner.coordinate := by decide +kernel
  obtain ⟨hbox, -⟩ := drags_exactly hsquare ⟨20, 30⟩
  obtain ⟨-, hfree⟩ := drags_exactly hkite ⟨3, 4⟩
  obtain ⟨opposite, hbetween, -, hcarried⟩ := hbox ⟨0, 0, 10, 10⟩ (by decide +kernel) (by decide +kernel)
    (by decide +kernel) (by decide +kernel) (by decide +kernel)
  obtain ⟨replaced, e, hreplaced, hull, hrefused, -⟩ := hfree (by decide +kernel)
  exact ⟨hsquare, hkite, ⟨opposite, hbetween, hcarried⟩, replaced, e, hreplaced, hull, hrefused⟩

end Ring

end AreaOfInterest
