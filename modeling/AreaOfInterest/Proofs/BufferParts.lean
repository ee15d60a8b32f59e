import AreaOfInterest.Proofs.FlatWorld
import AreaOfInterest.Proofs.Longitudes

/-!
# What a buffer is made of

Each readable feature of a collection gives one part of its buffer: some polygons, whatever kind of shape the feature
has. The parts are united in the order of the features, the first one as it is. The buffer is one bare feature that
holds the union.

So a buffer depends on the readable features alone. And a lone polygon that is not to be buffered comes back as it was
read.
-/

namespace AreaOfInterest

variable {α : Type}

/-- A shape seen as the list of the polygons that it consists of. -/
inductive Shape.ConsistsOf : Shape α → List (Polygon α) → Prop where
  | polygon (p : Polygon α) : ConsistsOf (.polygon p) [p]
  | multiPolygon (ps : List (Polygon α)) : ConsistsOf (.multiPolygon ps) ps

/-- A collection of one bare feature that holds some polygons: one as a polygon, any other number as a multipolygon. -/
inductive FeatureCollection.Holds : FeatureCollection α → List (Polygon α) → Prop where
  | one (p : Polygon α) : Holds (.single (.ofGeometry (.polygon p.toPositions))) [p]
  | several {ps : List (Polygon α)} (number : ps.length ≠ 1) :
    Holds (.single (.ofGeometry (.multiPolygon (ps.map Polygon.toPositions)))) ps

namespace Shape

/-- The polygonal shapes are those that consist of polygons. -/
theorem consistsOf_iff {s : Shape α} {ps : List (Polygon α)} :
    s.ConsistsOf ps ↔ s.isPolygonal ∧ s.polygons = ps := by
  constructor
  · rintro (_ | _) <;> exact ⟨rfl, rfl⟩
  · rintro ⟨polygonal, rfl⟩
    cases s with
    | polygon p => exact .polygon p
    | multiPolygon ps => exact .multiPolygon ps
    | _ => cases polygonal

/-- A shape made of polygons consists of them. -/
theorem consistsOf_ofPolygons (ps : List (Polygon α)) : (ofPolygons ps).ConsistsOf ps := by
  unfold ofPolygons
  split
  · exact .polygon _
  · exact .multiPolygon ps

/-- The images of a shape's polygons are the polygons of its image. -/
theorem ConsistsOf.map [Scalar α] {s : Shape α} {ps : List (Polygon α)} (h : s.ConsistsOf ps)
    (f : Coord α → Coord α) : (s.map f).ConsistsOf (ps.map (·.map f)) := by
  cases h with
  | polygon p => exact .polygon (p.map f)
  | multiPolygon ps => exact .multiPolygon (ps.map (·.map f))

end Shape

/-- The shapes of a collection are those of its readable features. -/
theorem FeatureCollection.shapes_eq_filterMap_readable [Scalar α] (c : FeatureCollection α) :
    c.shapes = c.readable.filterMap Feature.toShape? := by
  rw [shapes, readable, List.filterMap_filter]
  refine List.filterMap_congr fun f _ => ?_
  cases f.toShape? <;> rfl

/-- A bare feature made of polygons holds them. -/
theorem FeatureCollection.holds_ofPolygons [BEq α] (ps : List (Polygon α)) :
    (single (.ofGeometry (.ofShape (.ofPolygons ps)))).Holds ps := by
  unfold Shape.ofPolygons
  split
  · exact .one _
  · next number =>
    refine .several fun h => ?_
    obtain ⟨p, rfl⟩ := List.length_eq_one_iff.mp h
    exact number p rfl

/-- What holds some polygons is determined by them. -/
theorem FeatureCollection.holds_iff [BEq α] {c : FeatureCollection α} {ps : List (Polygon α)} :
    c.Holds ps ↔ c = .single (.ofGeometry (.ofShape (.ofPolygons ps))) := by
  constructor
  · rintro (_ | number)
    · rfl
    · unfold Shape.ofPolygons
      split
      · exact absurd rfl number
      · rfl
  · rintro rfl
    exact holds_ofPolygons ps

namespace PlanarOps

/-- The left-to-right union of some parts: the first one as it is, each further one united with what is there. -/
inductive Unites (ops : PlanarOps α) : List (List (Polygon α)) → List (Polygon α) → Prop where
  | first (part : List (Polygon α)) : Unites ops [part] part
  | next {parts : List (List (Polygon α))} {union : List (Polygon α)} (part : List (Polygon α)) :
    Unites ops parts union → Unites ops (parts ++ [part]) (ops.union union part)

variable [Scalar α] {ops : PlanarOps α} {distance : α} {alsoPolygons : Bool}

/-- The parts that some shapes give: the buffer of each one, seen as polygons. -/
def Parts (ops : PlanarOps α) (distance : α) (alsoPolygons : Bool) :
    List (Shape α) → List (List (Polygon α)) → Prop :=
  List.Forall₂ fun s part => ∃ b, ops.bufferShape? s distance alsoPolygons = some b ∧ b.ConsistsOf part

/-- What is buffered consists of polygons. -/
theorem consistsOf_of_bufferShape? {s b : Shape α} (h : ops.bufferShape? s distance alsoPolygons = some b) :
    b.ConsistsOf b.polygons := by
  unfold bufferShape? at h
  split at h
  · next unchanged =>
    cases h
    exact Shape.consistsOf_iff.mpr ⟨(Bool.and_eq_true_iff.mp unchanged).1, rfl⟩
  · obtain ⟨ps, -, rfl⟩ := Option.map_eq_some_iff.mp h
    have hmapped := (Shape.consistsOf_ofPolygons ps).map Mercator.unproject
    exact (Shape.consistsOf_iff.mp hmapped).2 ▸ hmapped

omit [Scalar α] in
/-- One further part is united with what is there, unless it is the first one. -/
theorem unionAll_concat (ops : PlanarOps α) {parts : List (List (Polygon α))} (h : parts ≠ [])
    (part : List (Polygon α)) : ops.unionAll (parts ++ [part]) = ops.union (ops.unionAll parts) part := by
  cases parts with
  | nil => exact absurd rfl h
  | cons first rest => simp [unionAll]

omit [Scalar α] in
/-- Any parts have one union, unless there are none. -/
theorem unites_iff {parts : List (List (Polygon α))} {union : List (Polygon α)} :
    ops.Unites parts union ↔ parts ≠ [] ∧ ops.unionAll parts = union := by
  constructor
  · intro h
    induction h with
    | first part => exact ⟨List.cons_ne_nil _ _, rfl⟩
    | next part _ ih => exact ⟨by simp, by rw [unionAll_concat ops ih.1, ih.2]⟩
  · rintro ⟨some_part, rfl⟩
    induction parts using List.reverseRecOn with
    | nil => exact absurd rfl some_part
    | append_singleton parts part ih =>
      cases parts with
      | nil => exact .first part
      | cons first rest =>
        rw [unionAll_concat ops (List.cons_ne_nil _ _)]
        exact .next part (ih (List.cons_ne_nil _ _))

/-- The parts of a buffer are those that the shapes of the features give. -/
theorem bufferParts?_eq_some_iff {features : List (Feature α)} {parts : List (List (Polygon α))} :
    ops.bufferParts? distance alsoPolygons features = some parts ↔
      ops.Parts distance alsoPolygons (features.filterMap Feature.toShape?) parts := by
  induction features generalizing parts with
  | nil => simp [bufferParts?, Parts, eq_comm]
  | cons f rest ih =>
    cases hshape : f.toShape? with
    | none => simpa [bufferParts?, hshape] using ih
    | some s =>
      rw [List.filterMap_cons_some hshape, Parts, List.forall₂_cons_left_iff]
      simp only [bufferParts?, hshape, Option.bind_eq_bind, Option.bind_eq_some_iff, pure, Option.some.injEq]
      constructor
      · rintro ⟨b, hb, further, hfurther, rfl⟩
        exact ⟨_, further, ⟨b, hb, consistsOf_of_bufferShape? hb⟩, ih.mp hfurther, rfl⟩
      · rintro ⟨part, further, ⟨b, hb, hpart⟩, hfurther, rfl⟩
        exact ⟨b, hb, further, ih.mpr hfurther, by rw [(Shape.consistsOf_iff.mp hpart).2]⟩

/-- Without parts there is no buffer. -/
theorem bufferFeatures_of_noParts {c : FeatureCollection α}
    (none : ∀ parts, ¬ops.Parts distance alsoPolygons c.shapes parts) :
    ops.bufferFeatures c distance alsoPolygons = .error .emptyRing := by
  have hparts : ops.bufferParts? distance alsoPolygons c.features = Option.none :=
    Option.eq_none_iff_forall_ne_some.mpr fun parts h => none parts (bufferParts?_eq_some_iff.mp h)
  rw [bufferFeatures, hparts]

/-- Of its parts a buffer is the union, if that has an area. -/
theorem bufferFeatures_of_parts {c : FeatureCollection α} {parts : List (List (Polygon α))}
    (h : ops.Parts distance alsoPolygons c.shapes parts) :
    ops.bufferFeatures c distance alsoPolygons =
      if ops.unionAll parts = [] then .error .emptyBuffer
      else .ok (.single (.ofGeometry (.ofShape (.ofPolygons (ops.unionAll parts))))) := by
  rw [bufferFeatures, bufferParts?_eq_some_iff.mpr h]
  dsimp only
  cases ops.unionAll parts <;> rfl

/-- Shapes give parts exactly when each of them can be buffered. -/
theorem exists_parts_iff {shapes : List (Shape α)} :
    (∃ parts, ops.Parts distance alsoPolygons shapes parts) ↔
      ∀ s ∈ shapes, ops.bufferShape? s distance alsoPolygons ≠ none := by
  induction shapes with
  | nil => exact ⟨fun _ => List.forall_mem_nil _, fun _ => ⟨[], .nil⟩⟩
  | cons s rest ih =>
    rw [List.forall_mem_cons, ← ih]
    constructor
    · rintro ⟨_, _ | ⟨⟨b, hb, -⟩, hrest⟩⟩
      exact ⟨by simp [hb], _, hrest⟩
    · rintro ⟨hs, parts, hrest⟩
      obtain ⟨b, hb⟩ := Option.ne_none_iff_exists'.mp hs
      exact ⟨_, .cons ⟨b, hb, consistsOf_of_bufferShape? hb⟩ hrest⟩

/-- The buffer of a collection depends on its readable features alone. -/
theorem bufferFeatures_congr {c c' : FeatureCollection α} (h : c'.readable = c.readable) :
    ops.bufferFeatures c' distance alsoPolygons = ops.bufferFeatures c distance alsoPolygons := by
  have hshapes : c'.shapes = c.shapes := by
    rw [FeatureCollection.shapes_eq_filterMap_readable, h, ← FeatureCollection.shapes_eq_filterMap_readable]
  have hparts : ops.bufferParts? distance alsoPolygons c'.features =
      ops.bufferParts? distance alsoPolygons c.features := by
    refine Option.ext fun parts => ?_
    rw [bufferParts?_eq_some_iff, bufferParts?_eq_some_iff]
    exact iff_of_eq (congrArg (ops.Parts distance alsoPolygons · parts) hshapes)
  rw [bufferFeatures, bufferFeatures, hparts]

/-- There is no outline exactly when some shape has none. -/
theorem bufferFeatures_eq_emptyRing_iff {c : FeatureCollection α} :
    ops.bufferFeatures c distance alsoPolygons = .error .emptyRing ↔
      ∃ s ∈ c.shapes, ops.bufferShape? s distance alsoPolygons = none := by
  by_cases hall : ∀ s ∈ c.shapes, ops.bufferShape? s distance alsoPolygons ≠ none
  · obtain ⟨parts, hparts⟩ := exists_parts_iff.mpr hall
    have hne : ops.bufferFeatures c distance alsoPolygons ≠ .error .emptyRing := by
      rw [bufferFeatures_of_parts hparts]
      split <;> nofun
    exact ⟨fun h => absurd h hne, fun ⟨s, hs, hnone⟩ => absurd hnone (hall s hs)⟩
  · have herror := bufferFeatures_of_noParts fun parts hparts => hall (exists_parts_iff.mp ⟨parts, hparts⟩)
    exact ⟨fun _ => by simpa using hall, fun _ => herror⟩

/-- Parts leave nothing exactly when there are none or their union is empty. -/
theorem bufferFeatures_eq_emptyBuffer_iff {c : FeatureCollection α} {parts : List (List (Polygon α))}
    (h : ops.Parts distance alsoPolygons c.shapes parts) :
    ops.bufferFeatures c distance alsoPolygons = .error .emptyBuffer ↔ parts = [] ∨ ops.Unites parts [] := by
  rw [bufferFeatures_of_parts h, unites_iff]
  constructor
  · intro hbuffered
    split at hbuffered
    · next empty => exact or_iff_not_imp_left.mpr fun hsome => ⟨hsome, empty⟩
    · cases hbuffered
  · rintro (rfl | ⟨-, empty⟩)
    · rfl
    · rw [if_pos empty]

/-- What is buffered holds the union of the parts. -/
theorem bufferFeatures_eq_ok_iff {c w : FeatureCollection α} {parts : List (List (Polygon α))}
    (h : ops.Parts distance alsoPolygons c.shapes parts) :
    ops.bufferFeatures c distance alsoPolygons = .ok w ↔
      ∃ polygons, polygons ≠ [] ∧ ops.Unites parts polygons ∧ w.Holds polygons := by
  simp only [bufferFeatures_of_parts h, unites_iff, FeatureCollection.holds_iff]
  constructor
  · intro hbuffered
    split at hbuffered
    · cases hbuffered
    · next area =>
      refine ⟨_, area, ⟨?_, rfl⟩, (Except.ok.inj hbuffered).symm⟩
      rintro rfl
      exact area rfl
  · rintro ⟨polygons, area, ⟨-, rfl⟩, rfl⟩
    rw [if_neg area]

/-- A lone feature with polygons that are not to be buffered keeps them. -/
theorem exists_bufferFeatures_lone {c : FeatureCollection α} {s : Shape α} (lone : c.shapes = [s])
    (area : s.polygons ≠ []) : ∃ w, ops.bufferFeatures c distance false = .ok w ∧ w.Holds s.polygons := by
  have polygonal : s.isPolygonal := by
    cases s with
    | polygon | multiPolygon => rfl
    | _ => exact absurd rfl area
  have hpart : ops.bufferShape? s distance false = some s := by simp [bufferShape?, polygonal]
  have hparts : ops.Parts distance false c.shapes [s.polygons] := by
    rw [lone]
    exact .cons ⟨s, hpart, Shape.consistsOf_iff.mpr ⟨polygonal, rfl⟩⟩ .nil
  exact ⟨_, (bufferFeatures_eq_ok_iff hparts).mpr ⟨_, area, .first _, FeatureCollection.holds_ofPolygons _⟩,
    FeatureCollection.holds_ofPolygons _⟩

/-- A lone point can be buffered when it has an outline. -/
theorem exists_bufferFeatures_point {c : FeatureCollection α} {p : Coord α} {polygons : List (Polygon α)}
    (lone : c.shapes = [.point p])
    (outline : ops.buffer? (.point (Mercator.project p)) (effectiveDistance distance) = some polygons)
    (area : polygons ≠ []) : ∃ w, ops.bufferFeatures c distance alsoPolygons = .ok w := by
  have hpart : ops.bufferShape? (.point p) distance alsoPolygons =
      some (Mercator.unprojectShape (Shape.ofPolygons polygons)) := by
    simp [bufferShape?, Shape.isPolygonal, Mercator.projectShape, Shape.map, outline]
  have hconsists := (Shape.consistsOf_ofPolygons polygons).map Mercator.unproject
  have hparts : ops.Parts distance alsoPolygons c.shapes [polygons.map (·.map Mercator.unproject)] := by
    rw [lone]
    exact .cons ⟨_, hpart, hconsists⟩ .nil
  exact ⟨_, (bufferFeatures_eq_ok_iff hparts).mpr
    ⟨_, by simpa using area, .first _, FeatureCollection.holds_ofPolygons _⟩⟩

/-- A collection is buffered exactly as its parts say. It has one part for each readable feature, in their order,
provided that each one can be buffered. Without parts, or when their union is empty, there is no buffer; otherwise it
is one bare feature that holds the union. Whatever else is in the collection changes nothing, and a lone feature with
polygons that are not to be buffered comes back with them as they were read. -/
theorem bufferFeatures_unites_parts (ops : PlanarOps α) (c : FeatureCollection α) (distance : α)
    (alsoPolygons : Bool) :
    (ops.bufferFeatures c distance alsoPolygons = .error .emptyRing ↔
      ∃ s ∈ c.shapes, ops.bufferShape? s distance alsoPolygons = none) ∧
    ((∀ s ∈ c.shapes, ops.bufferShape? s distance alsoPolygons ≠ none) →
      ∃ parts, ops.Parts distance alsoPolygons c.shapes parts) ∧
    (∀ parts, ops.Parts distance alsoPolygons c.shapes parts →
      (ops.bufferFeatures c distance alsoPolygons = .error .emptyBuffer ↔ parts = [] ∨ ops.Unites parts []) ∧
      ∀ w, ops.bufferFeatures c distance alsoPolygons = .ok w ↔
        ∃ polygons, polygons ≠ [] ∧ ops.Unites parts polygons ∧ w.Holds polygons) ∧
    (∀ c' : FeatureCollection α, c'.readable = c.readable →
      ops.bufferFeatures c' distance alsoPolygons = ops.bufferFeatures c distance alsoPolygons) ∧
    ∀ s, c.shapes = [s] → s.polygons ≠ [] →
      ∃ w, ops.bufferFeatures c distance false = .ok w ∧ w.Holds s.polygons := by
  refine ⟨bufferFeatures_eq_emptyRing_iff, exists_parts_iff.mpr, fun parts hparts => ?_,
    fun c' same => bufferFeatures_congr same, fun s lone area => exists_bufferFeatures_lone lone area⟩
  exact ⟨bufferFeatures_eq_emptyBuffer_iff hparts, fun w => bufferFeatures_eq_ok_iff hparts⟩

end PlanarOps

namespace FlatWorld

/-- A field as it is read. -/
def field : Polygon Rat := ⟨[⟨0, 0⟩, ⟨1, 0⟩, ⟨1, 1⟩, ⟨0, 0⟩], []⟩

/-- The feature of the field, with its ring left open. -/
def fieldFeature : Feature Rat := .ofGeometry (.polygon [[[0, 0], [1, 0], [1, 1]]])

/-- A tree and a field, with a feature that has no geometry and one that cannot be read between them. -/
def plots : FeatureCollection Rat :=
  .ofFeatures [.ofGeometry (.point [2, 1]), ⟨none, none, none, none⟩, .ofGeometry (.point [3]), fieldFeature]

end FlatWorld

/-- The two readable plots give a part each, and the buffer holds their union; without the other two features the buffer
is the same. The field alone, not to be buffered, keeps its ring. -/
theorem PlanarOps.bufferFeatures_unites_parts_plots :
    (∃ parts w polygons, FlatWorld.planarOps.Parts 1000 true FlatWorld.plots.shapes parts ∧
      FlatWorld.planarOps.bufferFeatures FlatWorld.plots 1000 true = .ok w ∧ polygons ≠ [] ∧
      FlatWorld.planarOps.Unites parts polygons ∧ w.Holds polygons) ∧
    FlatWorld.planarOps.bufferFeatures (.ofFeatures FlatWorld.plots.readable) 1000 true =
      FlatWorld.planarOps.bufferFeatures FlatWorld.plots 1000 true ∧
    ∃ w, FlatWorld.planarOps.bufferFeatures (.single FlatWorld.fieldFeature) 1000 false = .ok w ∧
      w.Holds [FlatWorld.field] := by
  obtain ⟨-, exist, united, readable, -⟩ := bufferFeatures_unites_parts FlatWorld.planarOps FlatWorld.plots 1000 true
  obtain ⟨-, -, -, -, lone⟩ :=
    bufferFeatures_unites_parts FlatWorld.planarOps (.single FlatWorld.fieldFeature) 1000 true
  have hall : ∀ s ∈ FlatWorld.plots.shapes, (FlatWorld.planarOps.bufferShape? s 1000 true).isSome := by decide +kernel
  obtain ⟨parts, hparts⟩ := exist fun s hs => Option.isSome_iff_ne_none.mp (hall s hs)
  refine ⟨?_, readable _ ?_, lone (.polygon FlatWorld.field) rfl (List.cons_ne_nil _ _)⟩
  · have hok : (FlatWorld.planarOps.bufferFeatures FlatWorld.plots 1000 true).toBool := by decide +kernel
    cases hbuffered : FlatWorld.planarOps.bufferFeatures FlatWorld.plots 1000 true with
    | error failure =>
      rw [hbuffered] at hok
      cases hok
    | ok w =>
      obtain ⟨polygons, area, hunion, hholds⟩ := ((united parts hparts).2 w).mp hbuffered
      exact ⟨parts, w, polygons, hparts, rfl, area, hunion, hholds⟩
  · simp [FeatureCollection.readable, FeatureCollection.ofFeatures]

end AreaOfInterest
