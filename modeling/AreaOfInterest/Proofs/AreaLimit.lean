import AreaOfInterest.Geometry.Geodesic
import AreaOfInterest.Proofs.Layers
import AreaOfInterest.Proofs.NotNumbers

/-!
# The limit of the area

A selection may be exported when each of its features covers some area and their areas do not add up to more than the
limit. The comparison only refuses a sum that is above the limit, and a sum that is not a number is above nothing. So
the limit holds as long as every area is finite, however the ground is measured. But where a polygon beyond a pole has no
area, as it has none on the ellipsoid, a selection of any size is accepted with it.
-/

namespace AreaOfInterest

section Totals

variable {α : Type} [Scalar α] [Surface α]

namespace FeatureCollection

/-- There are features, and every one of them can be read and covers some area. -/
def CoversArea (c : FeatureCollection α) : Prop :=
  c.features ≠ [] ∧ ∀ f ∈ c.features, ∃ s, f.toShape? = some s ∧ s.hasArea

/-- The sum of the areas of the features, in square kilometres. -/
def squareKilometres (c : FeatureCollection α) : α := c.shapes.foldl (fun total s => total + s.areaSqKm) 0.0

end FeatureCollection

namespace Session

/-- What an acceptable selection is meant to be: its area is a number within the limit. -/
structure Upholds (c : FeatureCollection α) (limit : α) : Prop where
  coversArea : c.CoversArea
  number : Scalar.isNaN c.squareKilometres = false
  within : c.squareKilometres ≤ limit

/-- Features have a total as long as all of them cover some area, and it is their sum. -/
theorem totalArea?_eq_some_iff {features : List (Feature α)} {start total : α} :
    totalArea? start features = some total ↔ (∀ f ∈ features, ∃ s, f.toShape? = some s ∧ s.hasArea) ∧
      (features.filterMap Feature.toShape?).foldl (fun total s => total + s.areaSqKm) start = total := by
  induction features generalizing start with
  | nil => simp [totalArea?]
  | cons f rest ih =>
    rw [List.forall_mem_cons, totalArea?]
    cases hshape : f.toShape? with
    | none => simp
    | some s =>
      rw [List.filterMap_cons_some hshape, List.foldl_cons]
      by_cases harea : s.hasArea <;> simp [harea, ih]

/-- A selection is acceptable when all of it covers some area and it is not above the limit, if there is one. -/
theorem isAcceptable_iff {c : FeatureCollection α} {limit? : Option α} :
    isAcceptable c limit? ↔ c.CoversArea ∧ ∀ limit ∈ limit?, ¬limit < c.squareKilometres := by
  unfold isAcceptable
  rw [Bool.and_eq_true, FeatureCollection.CoversArea, and_assoc]
  refine and_congr (by simp) ?_
  cases htotal : totalArea? (0.0 : α) c.features with
  | none =>
    refine ⟨nofun, fun ⟨hall, _⟩ => ?_⟩
    rw [totalArea?_eq_some_iff.mpr ⟨hall, rfl⟩] at htotal
    cases htotal
  | some total =>
    obtain ⟨hall, rfl⟩ := totalArea?_eq_some_iff.mp htotal
    rw [and_iff_right hall]
    cases limit? with
    | none => exact ⟨fun _ => nofun, fun _ => rfl⟩
    | some limit => simp [FeatureCollection.squareKilometres, FeatureCollection.shapes]

end Session

/-- The areas of several shapes are added up. -/
theorem Shape.areaSqKmOfEach_eq_foldl (total : α) (shapes : List (Shape α)) :
    areaSqKmOfEach total shapes = shapes.foldl (fun total s => total + s.areaSqKm) total := by
  induction shapes generalizing total with
  | nil => rfl
  | cons s rest ih => rw [areaSqKmOfEach, ih, List.foldl_cons]

end Totals

/-- A polygon with a position beyond a pole. -/
def Polygon.BeyondPole (p : Polygon Float) : Prop := ∃ ring ∈ p.rings, ∃ c ∈ ring, 90.0 < c.y.abs

/-- A shape with such a polygon, at any depth. -/
inductive Shape.BeyondPole : Shape Float → Prop where
  | polygon {p : Polygon Float} (beyond : p.BeyondPole) : BeyondPole (.polygon p)
  | multiPolygon {ps : List (Polygon Float)} {p : Polygon Float} (part : p ∈ ps) (beyond : p.BeyondPole) :
    BeyondPole (.multiPolygon ps)
  | collection {members : List (Shape Float)} {m : Shape Float} (member : m ∈ members) :
    m.BeyondPole → BeyondPole (.collection members)

/-- A polygon beyond a pole has no area on the ground. -/
def Surface.NoNumberBeyondPole (surface : Surface Float) : Prop :=
  ∀ p : Polygon Float, p.BeyondPole → (surface.squareMetres p).isNaN

namespace Geodesic

open Double

/-- A ring has no area when one of its positions has no place on the ellipsoid. -/
theorem isNaN_ringArea (side : Side) {ring : Polyline Float} (h : ∃ c ∈ ring, 90.0 < c.y.abs) :
    (ringArea side ring).isNaN := by
  obtain ⟨c, hc, beyond⟩ := h
  have hoff : isOnGlobe c = false := by
    have hlat : ¬c.y.abs ≤ 90.0 := fun hle => by
      obtain hlt | heq := le_iff.mp hle
      · exact NumericOrder.lt_asymm beyond hlt
      · exact NumericOrder.not_beq_of_lt beyond (by rwa [NumericOrder.beq_comm])
    rw [isOnGlobe, decide_eq_false hlat, Bool.and_false]
  have hring : ring.all isOnGlobe = false := List.all_eq_false.mpr ⟨c, hc, by simp [hoff]⟩
  have hnone : (0.0 / 0.0 : Float).isNaN := by decide +kernel
  rw [ringArea, hring]
  exact hnone

/-- Nor has a polygon with such a ring, be it a hole. -/
theorem noNumberBeyondPole : surface.NoNumberBeyondPole := by
  rintro p ⟨ring, hring, hbeyond⟩
  refine isNaN_sub ?_
  obtain rfl | hhole := List.mem_cons.mp hring
  · exact .inl (isNaN_ringArea .left hbeyond)
  · exact .inr (isNaN_foldl_add (.inr ⟨ring, hhole, isNaN_abs (isNaN_ringArea .right hbeyond)⟩))

end Geodesic

section Surfaces

variable [surface : Surface Float]

/-- A shape has no area when one of its polygons has none. -/
theorem Shape.BeyondPole.isNaN_areaSqKm (poles : surface.NoNumberBeyondPole) {s : Shape Float}
    (beyond : s.BeyondPole) : s.areaSqKm.isNaN := by
  induction beyond with
  | polygon beyond =>
    rw [Shape.areaSqKm]
    exact Double.isNaN_div (.inl (poles _ beyond))
  | multiPolygon part beyond =>
    rw [Shape.areaSqKm, Scalar.sum, List.foldl_map]
    exact Double.isNaN_div (.inl (Double.isNaN_foldl_add (.inr ⟨_, part, poles _ beyond⟩)))
  | collection member _ ih =>
    rw [Shape.areaSqKm, Shape.areaSqKmOfEach_eq_foldl]
    exact Double.isNaN_div (.inl (Double.isNaN_mul (.inl (Double.isNaN_foldl_add (.inr ⟨_, member, ih⟩)))))

/-- On doubles a selection is accepted when its area is a number within the limit, and also when its area is not a
number at all, however the ground is measured. It is one as long as every area is finite. Where nothing beyond a pole
has an area, it is none with a polygon beyond a pole, and such a selection is accepted with any limit as it is
without. -/
theorem Session.isAcceptable_iff_upholds (c : FeatureCollection Float) {limit : Float} (finite : limit.isFinite) :
    (isAcceptable c (some limit) ↔ Upholds c limit ∨ c.CoversArea ∧ c.squareKilometres.isNaN) ∧
      ((∀ s ∈ c.shapes, s.areaSqKm.isFinite) → c.squareKilometres.isNaN = false) ∧
      (surface.NoNumberBeyondPole → (∃ s ∈ c.shapes, s.BeyondPole) →
        c.squareKilometres.isNaN ∧ (isAcceptable c (some limit) ↔ isAcceptable c none)) := by
  have hundefined (h : c.squareKilometres.isNaN) : ¬limit < c.squareKilometres := fun hlt =>
    Bool.eq_false_iff.mp (Double.isNaN_of_beq (Double.numbers_of_lt hlt).2) h
  have hlimited : isAcceptable c (some limit) ↔ c.CoversArea ∧ ¬limit < c.squareKilometres := by
    simp [isAcceptable_iff]
  have hfree : isAcceptable c none ↔ c.CoversArea := by simp [isAcceptable_iff]
  refine ⟨⟨fun h => ?_, ?_⟩, Double.isNaN_foldl_add_finite (by decide +kernel), fun poles ⟨s, hs, beyond⟩ => ?_⟩
  · obtain ⟨hcovers, hle⟩ := hlimited.mp h
    cases hnumber : c.squareKilometres.isNaN with
    | true => exact .inr ⟨hcovers, rfl⟩
    | false =>
      have hlimit := Double.isNaN_of_isFinite finite
      exact .inl ⟨hcovers, hnumber, (Double.le_iff_not_lt hnumber hlimit).mpr hle⟩
  · rintro (⟨hcovers, hnumber, hwithin⟩ | ⟨hcovers, hnone⟩)
    · have hlimit := Double.isNaN_of_isFinite finite
      exact hlimited.mpr ⟨hcovers, (Double.le_iff_not_lt hnumber hlimit).mp hwithin⟩
    · exact hlimited.mpr ⟨hcovers, hundefined hnone⟩
  · have hnone : c.squareKilometres.isNaN := Double.isNaN_foldl_add (.inr ⟨s, hs, beyond.isNaN_areaSqKm poles⟩)
    exact ⟨hnone, by rw [hlimited, hfree, and_iff_left (hundefined hnone)]⟩

end Surfaces

namespace Session

/-- A box from the equator to beyond the pole. -/
def polarBox : Polygon Float := ⟨[⟨0.0, 0.0⟩, ⟨10.0, 0.0⟩, ⟨10.0, 100.0⟩, ⟨0.0, 100.0⟩, ⟨0.0, 0.0⟩], []⟩

/-- The box as a selection. -/
def polarSelection : FeatureCollection Float := .single (.ofGeometry (.ofShape (.polygon polarBox)))

/-- The selection has the box as its shape. -/
theorem shapes_polarSelection : polarSelection.shapes = [.polygon polarBox] := by
  have closed : polarBox.Closed := by
    intro ring hring
    cases List.mem_singleton.mp hring
    decide +kernel
  have hshape : Feature.toShape? (.ofGeometry (.ofShape (.polygon polarBox))) = some (.polygon polarBox) :=
    Feature.toShape?_eq_some_iff.mpr ⟨_, rfl, (Shape.Plain.polygon closed).toShape_ofShape⟩
  exact List.filterMap_cons_some hshape

/-- On the ellipsoid the box is beyond the pole, so it is accepted with a limit as without. A point has a finite area,
and so its selection has an area that is a number. -/
theorem isAcceptable_iff_upholds_polarSelection :
    (1.0 : Float).isFinite ∧ Geodesic.surface.NoNumberBeyondPole ∧ (∃ s ∈ polarSelection.shapes, s.BeyondPole) ∧
      (isAcceptable polarSelection (some (1.0 : Float)) ↔ isAcceptable polarSelection none) ∧
      (FeatureCollection.single (.ofGeometry (.point [2.0, 1.0] : Geometry Float))).squareKilometres.isNaN = false := by
  have hfinite : (1.0 : Float).isFinite := by decide +kernel
  have hbeyond : ∃ s ∈ polarSelection.shapes, s.BeyondPole := by
    rw [shapes_polarSelection]
    exact ⟨_, List.mem_singleton_self _,
      .polygon ⟨_, List.mem_cons_self, ⟨10.0, 100.0⟩, by simp [polarBox], by decide +kernel⟩⟩
  have hpoles := Geodesic.noNumberBeyondPole
  exact ⟨hfinite, hpoles, hbeyond, ((isAcceptable_iff_upholds polarSelection hfinite).2.2 hpoles hbeyond).2,
    (isAcceptable_iff_upholds _ hfinite).2.1 (by decide +kernel)⟩

/-- The box is accepted although its area is not a number. -/
theorem not_upholds_polarSelection :
    (1.0 : Float).isFinite ∧ isAcceptable polarSelection (some (1.0 : Float)) ∧ ¬Upholds polarSelection 1.0 := by
  refine ⟨by decide +kernel, by decide +kernel, fun h => ?_⟩
  have hnone : polarSelection.squareKilometres.isNaN := by decide +kernel
  exact Bool.eq_false_iff.mp h.number hnone

end Session

end AreaOfInterest
