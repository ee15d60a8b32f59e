import AreaOfInterest.Proofs.FlatWorld

/-!
# Vertices

Where the vertices of a shape are found, and where a dragged one is after its ring was changed. Corners of boxes are
recognised by being close to the corner that is dragged. A coordinate is close to itself only when it is finite: the
difference of an infinite one and itself is not a number.
-/

namespace AreaOfInterest

variable {α : Type} [Scalar α]

/-- Finite values are close to themselves. -/
class SelfClose (α : Type) [Scalar α] : Prop where
  close_self (x : α) : Scalar.isFinite x → Ring.close x x

instance : SelfClose Rat where
  close_self x _ := by
    change decide ((if x - x < 0 then -(x - x) else x - x) ≤ 0.000001) = true
    rw [Rat.sub_self]
    decide +kernel

/-- The difference of a finite double and itself is the positive zero. -/
theorem Double.sub_self_of_isFinite {x : Float} (h : x.isFinite) : x - x = 0.0 := by
  have hunpacked : x.toModel.unpack.isFinite := h
  have hsub : Float.Model.UnpackedFloat.sub .binary64 x.toModel.unpack x.toModel.unpack = .zero .positive := by
    generalize x.toModel.unpack = u at hunpacked
    cases u with
    | notANumber | infinity => cases hunpacked
    | zero s => cases s <;> rfl
    | finite s m e hm =>
      change Float.Model.UnpackedFloat.normalize .binary64 (s.apply _ - s.apply _) _ .positive = _
      rw [Int.sub_self]
      rfl
  change Float.ofModel (.pack (Float.Model.UnpackedFloat.sub .binary64 x.toModel.unpack x.toModel.unpack)) = _
  rw [hsub]
  decide +kernel

instance : SelfClose Float where
  close_self x h := by
    change decide (Float.abs (x - x) ≤ 0.000001) = true
    rw [Double.sub_self_of_isFinite h]
    decide +kernel

/-- A position is finite on both axes. -/
def Coord.IsFinite (c : Coord α) : Prop := Scalar.isFinite c.x ∧ Scalar.isFinite c.y

namespace Shape

omit [Scalar α] in
/-- The polygon at a place is found among all polygons. -/
theorem polygonAt?_eq (shape : Shape α) (i : Nat) : shape.polygonAt? i = shape.polygons[i]? := by
  cases shape with
  | polygon p => cases i <;> rfl
  | multiPolygon ps => rfl
  | _ => simp [polygonAt?, polygons]

omit [Scalar α] in
/-- A polygon that is put in the place of another one is there. -/
theorem polygonAt?_setPolygon {shape : Shape α} {i : Nat} {p : Polygon α} (h : shape.polygonAt? i = some p)
    (q : Polygon α) : (shape.setPolygon i q).polygonAt? i = some q := by
  cases shape with
  | polygon p =>
    cases i with
    | zero => rfl
    | succ i => cases h
  | multiPolygon ps =>
    have hlt : i < ps.length := (List.getElem?_eq_some_iff.mp h).1
    simp [setPolygon, polygonAt?, hlt]
  | _ => cases h

end Shape

namespace Ring

/-- Closing a ring leaves its points where they are. -/
theorem getElem?_close {ring : Polyline α} {i : Nat} {c : Coord α} (h : ring[i]? = some c) :
    (Polyline.close ring)[i]? = some c := by
  unfold Polyline.close
  split
  · exact h
  · rw [List.getElem?_append_left (List.getElem?_eq_some_iff.mp h).1]
    exact h

/-- A vertex that is hit is on the ring. -/
theorem getElem?_of_findVertex? {pixel : Coord α} {tolerance : α} {v : Viewport α} {ring : Polyline α} {i : Nat}
    {c : Coord α} (h : findVertex? pixel tolerance v ring = some (i, c)) : ring[i]? = some c := by
  obtain ⟨j, -, hj⟩ := Option.bind_eq_some_iff.mp h
  obtain ⟨d, hd, heq⟩ := Option.map_eq_some_iff.mp hj
  cases heq
  exact hd

/-- A corner is moved onto the target when its origin is finite. -/
theorem moveCorner_self [SelfClose α] {origin : Coord α} (h : origin.IsFinite) (target : Coord α) :
    moveCorner origin target origin = target := by
  simp [moveCorner, SelfClose.close_self _ h.1, SelfClose.close_self _ h.2]

/-- Two places of a ring are the same vertex: they are one place, or the two ends of a closed ring. -/
def SameVertex (ring : Polyline α) (i j : Nat) : Prop :=
  j = i ∨ Polyline.isClosed ring ∧ (i = 0 ∨ i = ring.length - 1) ∧ (j = 0 ∨ j = ring.length - 1)

/-- The replaced vertex is at the target, and every other point is where it was. -/
theorem getElem?_moveVertex_eq {ring : Polyline α} {i : Nat} (hlt : i < ring.length) (target : Coord α) (j : Nat) :
    (SameVertex ring i j → (moveVertex ring i target)[j]? = some target) ∧
      (¬ SameVertex ring i j → (moveVertex ring i target)[j]? = ring[j]?) := by
  have hlast : ring.length - 1 < ring.length := by omega
  have hpos : 0 < ring.length := by omega
  by_cases hends : Polyline.isClosed ring ∧ (i = 0 ∨ i = ring.length - 1)
  · have hmoved : moveVertex ring i target = (ring.set 0 target).set (ring.length - 1) target := by
      simp [moveVertex, hends]
    have hsame : SameVertex ring i j ↔ j = 0 ∨ j = ring.length - 1 := by
      obtain ⟨hclosed, hi⟩ := hends
      constructor
      · rintro (rfl | ⟨-, -, hj⟩)
        · exact hi
        · exact hj
      · exact fun hj => .inr ⟨hclosed, hi, hj⟩
    rw [hmoved, hsame]
    constructor
    · rintro (rfl | rfl)
      · by_cases hone : ring.length - 1 = 0 <;> simp [hone, hpos]
      · simp [hlast]
    · intro hother
      rw [not_or] at hother
      rw [List.getElem?_set_ne (Ne.symm hother.2), List.getElem?_set_ne (Ne.symm hother.1)]
  · have hmoved : moveVertex ring i target = ring.set i target := by
      simp only [moveVertex]
      rw [if_neg (by simpa using hends)]
    have hsame : SameVertex ring i j ↔ j = i :=
      ⟨fun h => h.elim id fun hend => absurd ⟨hend.1, hend.2.1⟩ hends, .inl⟩
    rw [hmoved, hsame]
    exact ⟨fun h => by simp [h, hlt], fun h => List.getElem?_set_ne (Ne.symm h)⟩

/-- Replacing a vertex keeps the number of points. -/
theorem length_moveVertex (ring : Polyline α) (i : Nat) (target : Coord α) :
    (moveVertex ring i target).length = ring.length := by
  simp only [moveVertex]
  split <;> simp

/-- A ring that is closed stays so when a vertex is replaced by a number. -/
theorem isClosed_moveVertex {ring : Polyline α} (closed : Polyline.isClosed ring) (i : Nat) {target : Coord α}
    (number : target == target) : Polyline.isClosed (moveVertex ring i target) := by
  by_cases hlt : i < ring.length
  · rw [Polyline.isClosed, List.head?_eq_getElem?, List.getLast?_eq_getElem?, length_moveVertex]
    by_cases hend : i = 0 ∨ i = ring.length - 1
    · rw [(getElem?_moveVertex_eq hlt target 0).1 (.inr ⟨closed, hend, .inl rfl⟩),
        (getElem?_moveVertex_eq hlt target _).1 (.inr ⟨closed, hend, .inr rfl⟩)]
      exact number
    · have hother {j : Nat} (hj : j = 0 ∨ j = ring.length - 1) : ¬ SameVertex ring i j := by
        rintro (rfl | ⟨-, h, -⟩)
        · exact hend hj
        · exact hend h
      rw [(getElem?_moveVertex_eq hlt target 0).2 (hother (.inl rfl)),
        (getElem?_moveVertex_eq hlt target _).2 (hother (.inr rfl)), ← List.head?_eq_getElem?,
        ← List.getLast?_eq_getElem?]
      exact closed
  · have hsame : moveVertex ring i target = ring := by
      simp only [moveVertex]
      split
      · next hend =>
        have hempty : ring = [] := by
          simp only [Bool.and_eq_true, Bool.or_eq_true, beq_iff_eq] at hend
          exact List.eq_nil_of_length_eq_zero (by omega)
        rw [hempty]
        rfl
      · exact List.set_eq_of_length_le (by omega)
    rwa [hsame]

/-- The moved vertex of a ring is at the target. -/
theorem getElem?_moveVertex {ring : Polyline α} {i : Nat} (hlt : i < ring.length) (target : Coord α) :
    (moveVertex ring i target)[i]? = some target := (getElem?_moveVertex_eq hlt target i).1 (.inl rfl)

/-- After an accepted move the dragged vertex is at the target, in rings around boxes and in others. -/
theorem getElem?_of_drag? [SelfClose α] {ring moved : Polyline α} {drag : VertexDrag α} {target : Coord α}
    (h : drag? ring drag target = some moved) (there : ring[drag.vertex]? = some drag.coordinate)
    (hfinite : drag.coordinate.IsFinite) : moved[drag.vertex]? = some target := by
  have hmoved : moved =
      if isBox ring then ring.map (moveCorner drag.coordinate target) else moveVertex ring drag.vertex target := by
    simp only [drag?] at h
    split at h
    · split at h
      · cases h
      · exact (Option.some.inj h).symm
    · cases h
  rw [hmoved]
  split
  · rw [List.getElem?_map, there, Option.map_some, moveCorner_self hfinite]
  · exact getElem?_moveVertex (List.getElem?_eq_some_iff.mp there).1 target

end Ring

end AreaOfInterest
