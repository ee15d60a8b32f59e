import AreaOfInterest.Proofs.Picking
import AreaOfInterest.Proofs.Rounding
import AreaOfInterest.Proofs.Snapping
import AreaOfInterest.Proofs.Views
import Mathlib.Data.Set.Finite.Lattice

/-!
# Hovering and picking

Moving the pointer highlights the vertex below it, and pressing it picks one. Both look for the vertex in the same way,
but only the move brings the view back into the valid extent before. So the two agree as long as the view is there, and
they agree after every move.

With a view outside they do not. With exact scalars it is shifted by at least a world, which is a pixel or more, and
then some pixel is near a vertex in one of the two views and near none in the other.
-/

namespace AreaOfInterest

open Exact

variable {α : Type} [Scalar α]

namespace Editor

/-- The positions of the vertices on the layer that can be picked. -/
def vertices (e : Editor α) : List (Coord α) := e.layer.flatMap fun shape => shape.polygons.flatMap (·.exterior)

/-- The editor with its view back in the valid extent. -/
def broughtBack (e : Editor α) : Editor α := { e with viewport := e.viewport.snapped }

/-- Moving the pointer highlights a vertex exactly when pressing it instead picks one, and then it is the same. -/
def HoverAgrees (e : Editor α) (pixel : Coord α) : Prop :=
  ∀ c, (e.pointerMove pixel).2 = some c ↔
    (e.pointerDown pixel).2 ∧ (e.pointerDown pixel).1.draw.drag.map (·.coordinate) = some c

variable {e : Editor α} {pixel : Coord α}

omit [Scalar α] in
/-- The vertices are the positions of those that can be dragged. -/
theorem mem_vertices_iff {c : Coord α} :
    c ∈ e.vertices ↔ ∃ drag : VertexDrag α, drag.LiveOn e.layer ∧ drag.coordinate = c := by
  simp only [vertices, List.mem_flatMap]
  constructor
  · rintro ⟨shape, hshape, polygon, hpolygon, hc⟩
    obtain ⟨feature, hfeature⟩ := List.mem_iff_getElem?.mp hshape
    obtain ⟨i, hi⟩ := List.mem_iff_getElem?.mp hpolygon
    obtain ⟨vertex, hvertex⟩ := List.mem_iff_getElem?.mp hc
    rw [← shape.polygonAt?_eq] at hi
    exact ⟨⟨feature, i, vertex, c⟩, ⟨shape, polygon, hfeature, hi, hvertex⟩, rfl⟩
  · rintro ⟨drag, ⟨shape, polygon, hshape, hpolygon, hvertex⟩, rfl⟩
    rw [shape.polygonAt?_eq] at hpolygon
    exact ⟨shape, List.mem_of_getElem? hshape, polygon, List.mem_of_getElem? hpolygon, List.mem_of_getElem? hvertex⟩

/-- Some vertex is hit when one of those on the layer is near. -/
theorem isSome_hitVertex?_iff :
    (e.hitVertex? pixel).isSome ↔
      ∃ c ∈ e.vertices, Ring.isHit pixel e.settings.vertexTolerance e.viewport c := by
  rw [hitVertex?_eq_find?, List.find?_isSome]
  simp only [VertexDrag.mem_ofLayer_iff, mem_vertices_iff]
  constructor
  · rintro ⟨drag, hlive, hhit⟩
    exact ⟨_, ⟨drag, hlive, rfl⟩, hhit⟩
  · rintro ⟨_, ⟨drag, hlive, rfl⟩, hhit⟩
    exact ⟨drag, hlive, hhit⟩

omit [Scalar α] in
/-- Without polygons there are no vertices. -/
theorem vertices_of_bare (bare : e.layer.all (·.polygons.isEmpty)) : e.vertices = [] := by
  refine List.flatMap_eq_nil_iff.mpr fun shape hmem => ?_
  rw [List.isEmpty_iff.mp (List.all_eq_true.mp bare shape hmem)]
  rfl

/-- With nothing in its grip, the pointer highlights what is hit once the view is back. -/
theorem pointerMove_snd (idle : e.draw.drag = none) (pixel : Coord α) :
    (e.pointerMove pixel).2 = (e.broughtBack.hitVertex? pixel).map (·.coordinate) := by
  simp only [pointerMove, idle, Option.isSome_none, Bool.false_eq_true, if_false]
  split
  · next hbare =>
    cases hhit : e.broughtBack.hitVertex? pixel with
    | none => rfl
    | some drag =>
      obtain ⟨c, hc, -⟩ := isSome_hitVertex?_iff.mp (Option.isSome_of_eq_some hhit)
      have hvertices : e.broughtBack.vertices = [] := vertices_of_bare hbare
      rw [hvertices] at hc
      cases hc
  · rfl

/-- Hovering and picking agree when the same is hit in the two views. -/
theorem hoverAgrees_iff (normal : e.draw.mode = .normal) (idle : e.draw.drag = none) :
    e.HoverAgrees pixel ↔
      (e.broughtBack.hitVertex? pixel).map (·.coordinate) = (e.hitVertex? pixel).map (·.coordinate) := by
  have hdown (c : Coord α) : ((e.pointerDown pixel).2 ∧
      (e.pointerDown pixel).1.draw.drag.map (·.coordinate) = some c) ↔
        (e.hitVertex? pixel).map (·.coordinate) = some c := by
    cases hhit : e.hitVertex? pixel with
    | none => simp [pointerDown, hhit]
    | some drag => simp [pointerDown, hhit, normal, DrawMode.allowsVertexEditing, DrawController.beginDrag]
  simp only [HoverAgrees, hdown, pointerMove_snd idle]
  exact Option.ext_iff.symm

/-- With its centre in the valid extent the view is brought back to itself, so that hovering and picking agree. -/
theorem hoverAgrees_of_inside (normal : e.draw.mode = .normal) (idle : e.draw.drag = none)
    (inside : ¬ e.viewport.isOutside) (pixel : Coord α) : e.HoverAgrees pixel := by
  have hsame : e.broughtBack = e := by
    rw [broughtBack, Viewport.snapped, if_neg inside]
  rw [hoverAgrees_iff normal idle, hsame]

/-- When no vertex is near in either view, hovering and picking agree. -/
theorem hoverAgrees_of_missed (normal : e.draw.mode = .normal) (idle : e.draw.drag = none)
    (missed : ∀ v : Viewport α, ∀ c ∈ e.vertices, ¬ Ring.isHit pixel e.settings.vertexTolerance v c) :
    e.HoverAgrees pixel := by
  have hnone (v : Viewport α) : { e with viewport := v }.hitVertex? pixel = none := by
    rw [← Option.not_isSome_iff_eq_none, isSome_hitVertex?_iff]
    rintro ⟨c, hc, hhit⟩
    exact missed v c hc hhit
  rw [hoverAgrees_iff normal idle, broughtBack, hnone, hnone e.viewport]

/-- Without vertices there is nothing to disagree about. -/
theorem hoverAgrees_of_bare (normal : e.draw.mode = .normal) (idle : e.draw.drag = none) (bare : e.vertices = []) :
    e.HoverAgrees pixel := by
  refine hoverAgrees_of_missed normal idle fun v c hc => ?_
  rw [bare] at hc
  cases hc

end Editor

section Apart

variable [Exact α]

/-- The left edge of the world is west of the right one. -/
theorem Extent.ordered_world : (world : Extent α).minX < (world : Extent α).maxX := by
  have hwide := width_world_pos α
  rw [real_width] at hwide
  rw [lt_iff]
  linarith

/-- So it is in every viewport that can be made. -/
theorem Viewport.Built.ordered {v : Viewport α} (h : v.Built) : v.projection.minX < v.projection.maxX := by
  rw [h.projection_eq]
  exact Extent.ordered_world

variable [ExactRounding α] [ExactDistance α]

/-- A position is hit when its pixel, rounded, is within the tolerance of the rounded pixel that is asked for. -/
theorem Ring.isHit_iff {pixel : Coord α} {tolerance : α} {v : Viewport α} {c : Coord α} :
    isHit pixel tolerance v c ↔
      |(nearest (real pixel.x) - nearest (real (v.pixelOf c).x) : ℝ)| ≤ real tolerance ∧
        |(nearest (real pixel.y) - nearest (real (v.pixelOf c).y) : ℝ)| ≤ real tolerance := by
  rw [isHit, Bool.and_eq_true, decide_eq_true_eq, decide_eq_true_eq, le_iff, le_iff _ tolerance]
  simp only [ExactDistance.real_abs, real_sub, ExactRounding.real_round]

/-- Of two views of which one shows every position of a list a pixel or more to the east, that one has a pixel with a
position near, and the other one has none near it. -/
theorem Ring.exists_pixel_apart {v w : Viewport α} {tolerance : α} {coords : List (Coord α)} (nonempty : coords ≠ [])
    (tolerant : 0 ≤ real tolerance)
    (shifted : ∀ c ∈ coords, real (w.pixelOf c).x + 1 ≤ real (v.pixelOf c).x) :
    ∃ pixel, (∃ c ∈ coords, isHit pixel tolerance v c) ∧ ∀ c ∈ coords, ¬ isHit pixel tolerance w c := by
  obtain ⟨c, hc, hmax⟩ := Set.exists_max_image {c | c ∈ coords} (fun c => nearest (real (v.pixelOf c).x))
    (List.finite_toSet coords) (List.exists_mem_of_ne_nil coords nonempty)
  -- The pixel is as far to the east of the easternmost position as the tolerance allows.
  let pixel : Coord α := ⟨Scalar.round (v.pixelOf c).x - Scalar.ceil (-tolerance), (v.pixelOf c).y⟩
  have hpixel : nearest (real pixel.x) = nearest (real (v.pixelOf c).x) + ⌊real tolerance⌋ := by
    have hreal : real pixel.x = (nearest (real (v.pixelOf c).x) + ⌊real tolerance⌋ : ℤ) := by
      simp only [pixel, real_sub, ExactRounding.real_round, real_ceil, real_neg, Int.ceil_neg]
      push_cast
      ring
    rw [hreal, nearest_intCast]
  refine ⟨pixel, ⟨c, hc, ?_⟩, fun d hd hhit => ?_⟩
  · rw [isHit_iff, hpixel]
    push_cast
    rw [add_sub_cancel_left, sub_self, abs_zero]
    refine ⟨?_, tolerant⟩
    rw [abs_of_nonneg (by exact_mod_cast Int.floor_nonneg.mpr tolerant)]
    exact Int.floor_le _
  · rw [isHit_iff, hpixel] at hhit
    have heast : nearest (real (w.pixelOf d).x) + 1 ≤ nearest (real (v.pixelOf c).x) :=
      (nearest_add_one_le (shifted d hd)).trans (hmax d hd)
    have heast' : (nearest (real (w.pixelOf d).x) + 1 : ℝ) ≤ nearest (real (v.pixelOf c).x) := by exact_mod_cast heast
    have hfloor := Int.lt_floor_add_one (real tolerance)
    have hnear := (abs_le.mp hhit.1).2
    push_cast at hnear
    linarith

omit [ExactRounding α] [ExactDistance α] in
/-- A view outside is brought back by a pixel or more, if the world is shown that large. -/
theorem Viewport.snapped_shifts {v : Viewport α} (projection : v.projection = .world) (outside : v.isOutside)
    (positive : 0.0 < v.resolution) (fine : v.resolution ≤ (Extent.world : Extent α).width) :
    (∀ c, real (v.snapped.pixelOf c).x + 1 ≤ real (v.pixelOf c).x) ∨
      ∀ c, real (v.pixelOf c).x + 1 ≤ real (v.snapped.pixelOf c).x := by
  rw [lt_iff, real_zero] at positive
  rw [le_iff] at fine
  have houtside : Wrap.isOutside v.center.x .world := projection ▸ outside
  obtain ⟨n, hshift, hinside⟩ := Wrap.exists_real_unwrapX Extent.ordered_world houtside
  have hn : n ≠ 0 := by
    rintro rfl
    rw [Int.cast_zero, zero_mul, add_zero] at hshift
    rw [hshift] at hinside
    exact Wrap.not_isOutside_iff.mpr (Set.Ico_subset_Icc_self hinside) houtside
  have hworld : 1 ≤ real (Extent.world : Extent α).width / real v.resolution := (one_le_div positive).mpr fine
  have hpixel (c : Coord α) : real (v.snapped.pixelOf c).x =
      real (v.pixelOf c).x - n * (real (Extent.world : Extent α).width / real v.resolution) := by
    rw [Viewport.snapped, if_pos outside]
    simp only [Viewport.pixelOf, Viewport.setCenter, Wrap.unwrapCoord, projection, real_add, real_div, real_sub, hshift]
    ring
  obtain hneg | hpos := lt_or_gt_of_ne hn
  · right
    have hn' : (n : ℝ) ≤ -1 := by exact_mod_cast Int.le_sub_one_of_lt hneg
    intro c
    rw [hpixel]
    nlinarith
  · left
    have hn' : (1 : ℝ) ≤ n := by exact_mod_cast hpos
    intro c
    rw [hpixel]
    nlinarith

namespace Editor

variable [Surface α] {settings : EditorSettings α} {ops : PlanarOps α} {history : History α} {e : Editor α}

/-- With its view outside an editor has a pixel that is near a vertex in one of the two views only. -/
theorem exists_pixel_differs (hr : Reached settings ops history e) (outside : e.viewport.isOutside)
    (positive : 0.0 < e.viewport.resolution) (fine : e.viewport.resolution ≤ (Extent.world : Extent α).width)
    (nonempty : e.vertices ≠ []) (tolerant : 0 ≤ real e.settings.vertexTolerance) :
    ∃ pixel, ¬ ((e.broughtBack.hitVertex? pixel).isSome ↔ (e.hitVertex? pixel).isSome) := by
  simp only [isSome_hitVertex?_iff]
  obtain heast | hwest := Viewport.snapped_shifts hr.built.projection_eq outside positive fine
  · obtain ⟨pixel, hhit, hmissed⟩ := Ring.exists_pixel_apart nonempty tolerant fun c _ => heast c
    refine ⟨pixel, fun hsame => ?_⟩
    obtain ⟨c, hc, hnear⟩ := hsame.mpr hhit
    exact hmissed c hc hnear
  · obtain ⟨pixel, hhit, hmissed⟩ := Ring.exists_pixel_apart nonempty tolerant fun c _ => hwest c
    refine ⟨pixel, fun hsame => ?_⟩
    obtain ⟨c, hc, hnear⟩ := hsame.mp hhit
    exact hmissed c hc hnear

omit [ExactRounding α] [ExactDistance α] in
/-- Once the pointer was moved, hovering and picking agree. -/
theorem hoverAgrees_pointerMove (hr : Reached settings ops history e) (normal : e.draw.mode = .normal)
    (idle : e.draw.drag = none) (pixel pixel' : Coord α) : (e.pointerMove pixel).1.HoverAgrees pixel' := by
  simp only [pointerMove, idle, Option.isSome_none, Bool.false_eq_true, if_false]
  split
  · next hbare => exact hoverAgrees_of_bare normal idle (vertices_of_bare hbare)
  · refine hoverAgrees_of_inside ?_ ?_ (Viewport.not_isOutside_snapped hr.built.ordered) pixel'
    · exact normal
    · exact idle

/-- With nothing dragged and no tool in use, hovering and picking agree at every pixel exactly when the view is in the
valid extent, or no vertex can be hit at all. After a move of the pointer they do in any case. -/
theorem Reached.hover_agrees_iff (hr : Reached settings ops history e) (normal : e.draw.mode = .normal)
    (idle : e.draw.drag = none) (positive : 0.0 < e.viewport.resolution)
    (fine : e.viewport.resolution ≤ (Extent.world : Extent α).width) :
    ((∀ pixel, e.HoverAgrees pixel) ↔
      ¬ e.viewport.isOutside ∨ e.vertices = [] ∨ e.settings.vertexTolerance < 0.0) ∧
    ∀ pixel pixel', (e.pointerMove pixel).1.HoverAgrees pixel' := by
  refine ⟨⟨fun hagrees => ?_, ?_⟩, hoverAgrees_pointerMove hr normal idle⟩
  · by_contra hapart
    rw [not_or, not_or, not_not, lt_iff, real_zero, not_lt] at hapart
    obtain ⟨houtside, hvertices, htolerant⟩ := hapart
    obtain ⟨pixel, hdiffers⟩ := exists_pixel_differs hr houtside positive fine hvertices htolerant
    have hsame := congrArg Option.isSome ((hoverAgrees_iff normal idle).mp (hagrees pixel))
    rw [Option.isSome_map, Option.isSome_map] at hsame
    exact hdiffers (by rw [hsame])
  · rintro (hinside | hvertices | hintolerant) pixel
    · exact hoverAgrees_of_inside normal idle hinside pixel
    · exact hoverAgrees_of_bare normal idle hvertices
    · refine hoverAgrees_of_missed normal idle fun v c _ hhit => ?_
      rw [lt_iff, real_zero] at hintolerant
      linarith [(abs_nonneg _).trans (Ring.isHit_iff.mp hhit).1]

end Editor

end Apart

namespace Editor

/-- The view of a box is moved to the next copy of the world. -/
def nextWorld : List (Action Rat) :=
  FlatWorld.boxDrawn ++ [.moveView (.setCenter ⟨(Extent.world : Extent Rat).width, 0⟩)]

/-- Around a box, at first, the pointer picks what it highlights. -/
theorem hover_agrees_boxDrawn :
    let e := FlatWorld.start.run FlatWorld.boxDrawn
    e.draw.mode = .normal ∧ e.draw.drag = none ∧ 0.0 < e.viewport.resolution ∧
      e.viewport.resolution ≤ (Extent.world : Extent Rat).width ∧ ∀ pixel, e.HoverAgrees pixel := by
  intro e
  have hnormal : e.draw.mode = .normal := by decide +kernel
  have hidle : e.draw.drag = none := by decide +kernel
  have hpositive : 0.0 < e.viewport.resolution := by decide +kernel
  have hfine : e.viewport.resolution ≤ (Extent.world : Extent Rat).width := by decide +kernel
  have hr := (Reached.new FlatWorld.new?_eq_start).run FlatWorld.boxDrawn
  exact ⟨hnormal, hidle, hpositive, hfine,
    (hr.hover_agrees_iff hnormal hidle hpositive hfine).1.mpr (.inl (by decide +kernel))⟩

/-- In the next copy of the world a corner is highlighted where none is picked. -/
theorem not_hover_agrees_nextWorld :
    let e := FlatWorld.start.run nextWorld
    Reached .default FlatWorld.planarOps (FlatWorld.start.turns nextWorld []) e ∧ e.draw.mode = .normal ∧
      e.draw.drag = none ∧ ¬ e.HoverAgrees (e.viewport.snapped.pixelOf ⟨0, 0⟩) := by
  intro e
  refine ⟨(Reached.new FlatWorld.new?_eq_start).run nextWorld, by decide +kernel, by decide +kernel, fun hagrees => ?_⟩
  have hhovered : (e.pointerMove (e.viewport.snapped.pixelOf ⟨0, 0⟩)).2 = some ⟨0, 0⟩ := by decide +kernel
  have hmissed : (e.pointerDown (e.viewport.snapped.pixelOf ⟨0, 0⟩)).2 = false := by decide +kernel
  have hpicked := ((hagrees ⟨0, 0⟩).mp hhovered).1
  rw [hmissed] at hpicked
  cases hpicked

end Editor

end AreaOfInterest
