import AreaOfInterest.Proofs.EqualNumbers
import AreaOfInterest.Proofs.Outcomes
import AreaOfInterest.Proofs.PartialNumbers
import AreaOfInterest.Proofs.RingMoves
import AreaOfInterest.Proofs.Runs

/-!
# The ring that a drag moves

What one event of a drag does to the whole editor. Of the layer the exterior of the dragged polygon alone is another
one, and besides it the position of the drag and the highlight follow the pointer.

Polygons are kept closed. A closed ring that is dragged to a number is closed again, so that the exterior is the ring
that the move gave. Dragged to something that is not a number a ring need not be closed, because its two ends are then
not equal, and the exterior is that ring with the first point repeated.
-/

namespace AreaOfInterest

/-- Values that are equal as numbers are close to the same values. -/
class CloseCongr (α : Type) [Scalar α] : Prop where
  close_congr {x y : α} (origin : α) : x == y → Ring.close x origin = Ring.close y origin

instance {α : Type} [Scalar α] [NumericCongr α] : CloseCongr α where
  close_congr origin h := by
    have hdistance := NumericCongr.abs_congr (NumericCongr.sub_congr origin (.inr h))
    rw [Ring.close, Ring.close, decide_eq_decide]
    exact NumericCongr.le_congr _ hdistance

variable {α : Type} [Scalar α]

namespace Shape

/-- A shape of the same kind with another polygon in one place. -/
inductive Redrawn (i : Nat) (p : Polygon α) : Shape α → Shape α → Prop where
  | polygon {q : Polygon α} (only : i = 0) : Redrawn i p (.polygon q) (.polygon p)
  | multiPolygon {ps : List (Polygon α)} (there : i < ps.length) :
      Redrawn i p (.multiPolygon ps) (.multiPolygon (ps.set i p))

omit [Scalar α] in
/-- Putting a polygon in the place of another one changes the shape there alone. -/
theorem redrawn_setPolygon {shape : Shape α} {i : Nat} {q : Polygon α} (part : shape.polygonAt? i = some q)
    (p : Polygon α) : Redrawn i p shape (shape.setPolygon i p) := by
  cases shape with
  | polygon r =>
    cases i with
    | zero => exact .polygon rfl
    | succ i => cases part
  | multiPolygon ps => exact .multiPolygon (List.getElem?_eq_some_iff.mp part).1
  | _ => cases part

end Shape

namespace Ring

variable {ring moved : Polyline α} {drag : VertexDrag α} {target : Coord α}

/-- A closed ring stays closed under every function that takes equal positions to equal ones. -/
theorem isClosed_map_of_congr {f : Coord α → Coord α} (congr : ∀ c d, c == d → f c == f d)
    (closed : Polyline.isClosed ring) : Polyline.isClosed (ring.map f) := by
  rw [Polyline.isClosed, List.head?_map, List.getLast?_map]
  rw [Polyline.isClosed] at closed
  generalize ring.head? = first, ring.getLast? = last at closed
  cases first <;> cases last
  · rfl
  · cases closed
  · cases closed
  · exact congr _ _ closed

/-- A closed ring that is dragged to a number is closed. -/
theorem isClosed_of_drag? [CloseCongr α] (closed : Polyline.isClosed ring) (number : target.IsNumber)
    (accepted : drag? ring drag target = some moved) : Polyline.isClosed moved := by
  by_cases hbox : isBox ring
  · obtain ⟨rfl, -⟩ := drag?_of_isBox hbox accepted
    refine isClosed_map_of_congr (fun c d h => ?_) closed
    rw [Coord.beq_iff] at h
    rw [moveCorner, moveCorner, CloseCongr.close_congr _ h.1, CloseCongr.close_congr _ h.2, Coord.beq_iff]
    dsimp only
    constructor
    · split
      · exact number.x
      · exact h.1
    · split
      · exact number.y
      · exact h.2
  · have hmoved := (drag?_of_not_isBox hbox).mp accepted
    rw [hmoved.1]
    exact isClosed_moveVertex closed drag.vertex (Coord.beq_iff.mpr ⟨number.x, number.y⟩)

end Ring

namespace Editor

/-- What an event of a drag moves: the dragged polygon on the layer, and the ring that its exterior becomes when the
vertex goes to a target. -/
structure RingMove (e : Editor α) (target : Coord α) where
  drag : VertexDrag α
  shape : Shape α
  polygon : Polygon α
  ring : Polyline α
  dragged : e.draw.drag = some drag
  there : e.layer[drag.feature]? = some shape
  part : shape.polygonAt? drag.polygon = some polygon
  accepted : Ring.drag? polygon.exterior drag target = some ring

/-- An event of a drag moves something exactly when there is a dragged polygon to move. Then its exterior becomes the
moved ring, closed if it is not, and is that ring if it was closed and the target is a number. The drag remembers the
target, which is highlighted, and everything else in the editor is as it was. -/
theorem pointerDrag_moved_iff [CloseCongr α] {e : Editor α} {pixel : Coord α} :
    (e.pointerDrag pixel).2 = .moved ↔
      ∃ (m : e.RingMove (e.viewport.coordAt pixel)) (shape : Shape α) (exterior : Polyline α),
        (e.pointerDrag pixel).1 = { e with
          layer := e.layer.set m.drag.feature shape
          draw := { e.draw with drag := some { m.drag with coordinate := e.viewport.coordAt pixel } }
          marker := some (e.viewport.coordAt pixel) } ∧
        Shape.Redrawn m.drag.polygon { m.polygon with exterior } m.shape shape ∧
        exterior = m.ring.close ∧
        (m.polygon.exterior.isClosed → (e.viewport.coordAt pixel).IsNumber →
          exterior = m.ring ∧ exterior.isClosed) := by
  constructor
  · intro hmoved
    have hend := e.pointerDrag_ends pixel
    rw [hmoved] at hend
    generalize (e.pointerDrag pixel).1 = e' at hend
    cases hend with
    | @moved drag shape polygon ring dragged there part accepted =>
      refine ⟨⟨drag, shape, polygon, ring, dragged, there, part, accepted⟩, _, ring.close, rfl,
        Shape.redrawn_setPolygon part _, rfl, fun hclosed hnumber => ?_⟩
      have hring := Ring.isClosed_of_drag? hclosed hnumber accepted
      rw [Polyline.close_of_isClosed hring]
      exact ⟨rfl, hring⟩
  · rintro ⟨m, -⟩
    simp [pointerDrag, m.dragged, m.there, m.part, m.accepted]

/-- Two triangles in one multipolygon, the second with a hole, are imported next to a point. -/
def trianglesImported : List (Action Rat) :=
  [.importFeatures (.ofFeatures [.ofGeometry (.point [40, 40]), .ofGeometry (.multiPolygon
      [[[[0, 0], [20, 0], [0, 20], [0, 0]]],
        [[[-40, -40], [-10, -40], [-40, -10], [-40, -40]], [[-38, -38], [-30, -38], [-38, -30], [-38, -38]]]])])
    "triangles"]

/-- The first corner of the second triangle, on the map. -/
def secondTriangleCorner : Coord Rat := Mercator.project ⟨-40, -40⟩

/-- The imported triangles with the corner picked. -/
def trianglePicked : Editor Rat :=
  let e := FlatWorld.start.run trianglesImported
  (e.pointerDown (e.viewport.pixelOf secondTriangleCorner)).1

/-- The corner is dragged to the corner of the view. In the multipolygon the second triangle alone is another one, and
its exterior is the moved ring. -/
theorem pointerDrag_moved_triangle :
    (trianglePicked.pointerDrag ⟨0, 0⟩).2 = .moved ∧
      ∃ (m : trianglePicked.RingMove (trianglePicked.viewport.coordAt ⟨0, 0⟩)) (shape : Shape Rat),
        (trianglePicked.pointerDrag ⟨0, 0⟩).1.layer = trianglePicked.layer.set m.drag.feature shape ∧
        m.drag.feature = 1 ∧ m.drag.polygon = 1 ∧
        Shape.Redrawn m.drag.polygon { m.polygon with exterior := m.ring } m.shape shape := by
  have hmoved : (trianglePicked.pointerDrag ⟨0, 0⟩).2 = .moved := by
    have hmatches : (trianglePicked.pointerDrag ⟨0, 0⟩).2 matches .moved := by decide +kernel
    generalize (trianglePicked.pointerDrag ⟨0, 0⟩).2 = outcome at hmatches
    cases outcome with
    | moved => rfl
    | idle | rejected | committed | invalid => cases hmatches
  have hclosed : trianglePicked.layer.all fun shape => shape.polygons.all (·.exterior.isClosed) := by decide +kernel
  have hdrag : trianglePicked.draw.drag.map (fun drag => (drag.feature, drag.polygon)) = some (1, 1) := by
    decide +kernel
  obtain ⟨m, shape, exterior, hafter, hredrawn, -, hexact⟩ := pointerDrag_moved_iff.mp hmoved
  have hpolygon : m.polygon ∈ m.shape.polygons := List.mem_of_getElem? (m.shape.polygonAt?_eq m.drag.polygon ▸ m.part)
  have hring : m.polygon.exterior.isClosed :=
    List.all_eq_true.mp (List.all_eq_true.mp hclosed m.shape (List.mem_of_getElem? m.there)) m.polygon hpolygon
  obtain ⟨rfl, -⟩ := hexact hring ⟨BEq.rfl, BEq.rfl⟩
  rw [m.dragged, Option.map_some, Option.some.injEq, Prod.mk.injEq] at hdrag
  exact ⟨hmoved, m, shape, congrArg Editor.layer hafter, hdrag.1, hdrag.2, hredrawn⟩

/-- A quadrilateral that is no box is imported in the world with undefined numbers. -/
def quadrilateralImported : Editor PartialRat :=
  PartialRat.start.run [.importFeatures (.single (.ofGeometry (.polygon
    [[[.of 0, .of 0], [.of 20, .of 0], [.of 25, .of 20], [.of 2, .of 18], [.of 0, .of 0]]]))) "quadrilateral"]

/-- Its first corner is picked. -/
def quadrilateralPicked : Editor PartialRat :=
  quadrilateralImported.run [.pointerDown (quadrilateralImported.viewport.pixelOf ⟨.of 0, .of 0⟩)]

/-- The other corners of the quadrilateral on the map. -/
def quadrilateralOthers : List (Coord PartialRat) :=
  [⟨.of 127562740, .of 0⟩, ⟨.of 159453425, .of 63781370⟩, ⟨.of 12756274, .of 57403233⟩]

/-- Dragged to an undefined pixel the closed exterior does not become the moved ring: the two ends of that are not
equal, and the first point is repeated. -/
theorem pointerDrag_moved_undefined :
    (∃ history, Reached .default PartialRat.planarOps history quadrilateralPicked) ∧
    ∃ drag polygon ring, quadrilateralPicked.draw.drag = some drag ∧
      (quadrilateralPicked.layer[drag.feature]?.bind (·.polygonAt? drag.polygon)) = some polygon ∧
      polygon.exterior.isClosed ∧
      Ring.drag? polygon.exterior drag (quadrilateralPicked.viewport.coordAt ⟨.undefined, .undefined⟩) = some ring ∧
      ((quadrilateralPicked.pointerDrag ⟨.undefined, .undefined⟩).2 matches .moved) ∧
      ((quadrilateralPicked.pointerDrag ⟨.undefined, .undefined⟩).1.layer[drag.feature]?.bind
        (·.polygonAt? drag.polygon)) = some { polygon with exterior := ring ++ ring.head?.toList } := by
  refine ⟨⟨_, ((Reached.new PartialRat.new?_eq_start).run _).run _⟩, ⟨0, 0, 0, ⟨.of 0, .of 0⟩⟩,
    ⟨⟨.of 0, .of 0⟩ :: quadrilateralOthers ++ [⟨.of 0, .of 0⟩], []⟩,
    ⟨.undefined, .undefined⟩ :: quadrilateralOthers ++ [⟨.undefined, .undefined⟩], ?_, ?_, ?_, ?_, ?_, ?_⟩
  all_goals decide +kernel

end Editor

end AreaOfInterest
