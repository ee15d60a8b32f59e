import Mathlib.Analysis.Real.Pi.Bounds
import AreaOfInterest.Proofs.Hulls
import AreaOfInterest.Proofs.Rounding
import AreaOfInterest.Proofs.Views
import AreaOfInterest.Proofs.ZoomLimits

/-!
# Fitting the view to the layer

The view is fitted to the hull of the shapes on the layer. It is centred there, and takes the resolution at which the
window just holds the hull on both axes, moved between the limits. So all of it is on show, unless this resolution is
coarser than the coarsest. A hull without size asks for no resolution, and the view keeps the one that it has.

Scalars are exact here, and finite. Of the viewport nothing is asked but that it can be made and shows something: its
limits are in order then, though tiles may have no size, or less than that when a single zoom level is admitted.
-/

namespace AreaOfInterest

open Exact

/-- Exact scalars that are finite, every one of them. -/
class ExactFinite (α : Type) [Scalar α] [Exact α] : Prop where
  isFinite (x : α) : Scalar.isFinite x

instance : ExactFinite ℝ where
  isFinite _ := rfl

variable {α : Type} [Scalar α] [Exact α]

namespace Wrap

/-- A value exceeds what is made of it between two limits only when it exceeds the upper one. -/
theorem le_clamp_iff {lo hi : α} (ordered : real lo ≤ real hi) (x : α) :
    real x ≤ real (Scalar.clamp lo hi x) ↔ real x ≤ real hi := by
  refine ⟨fun h => h.trans (real_clamp_mem ordered x).2, fun h => ?_⟩
  obtain hlower | hlower := le_total (real lo) (real x)
  · rw [clamp_of_mem ⟨hlower, h⟩]
  · exact hlower.trans (real_clamp_mem ordered x).1

end Wrap

namespace Extent

/-- The middle of a single position is that position. -/
theorem center_ofCoord (c : Coord α) : (ofCoord c).center = c := by
  have hmid (x : α) : (x + x) / 2.0 = x := by
    apply real_injective
    rw [real_div, real_add, real_ofScientific]
    norm_num
  rw [center, ofCoord, hmid, hmid]

/-- A single position has no width. -/
theorem width_ofCoord (c : Coord α) : (ofCoord c).width = 0.0 := by
  apply real_injective
  rw [real_width, real_zero]
  exact sub_self _

/-- A single position has no height. -/
theorem height_ofCoord (c : Coord α) : (ofCoord c).height = 0.0 := by
  apply real_injective
  rw [height, real_sub, real_zero]
  exact sub_self _

end Extent

namespace Viewport

/-- At some resolution the window is as large as an extent, on both axes. -/
def HoldsAt (v : Viewport α) (resolution : α) (x : Extent α) : Prop :=
  x.width ≤ v.widthPx * resolution ∧ x.height ≤ v.heightPx * resolution

/-- The resolution that an extent asks for: the coarser of those at which it just fits on one axis. -/
def resolutionFor (v : Viewport α) (x : Extent α) : α := max (x.width / v.widthPx) (x.height / v.heightPx)

/-- The resolution is between its limits, which come from zoom levels in order. -/
structure Ranged (v : Viewport α) : Prop where
  minZoom_le_maxZoom : v.minZoom ≤ v.maxZoom
  resolution_mem : real v.resolution ∈ Set.Icc (real v.finest) (real v.coarsest)

variable {v : Viewport α} {x : Extent α}

omit [Exact α] in
/-- A change of the view moves the centre at most, and sets some resolution at most. -/
theorem move_cases (v : Viewport α) (m : Move α) :
    ∃ c, v.move m = v.setCenter c ∨ ∃ r, v.move m = (v.setCenter c).setResolution r := by
  have hfit (x : Extent α) :
      ∃ c, v.fitExtent x = v.setCenter c ∨ ∃ r, v.fitExtent x = (v.setCenter c).setResolution r := by
    refine ⟨x.center, ?_⟩
    unfold fitExtent
    dsimp only
    split
    · exact .inr ⟨_, rfl⟩
    · exact .inl rfl
  cases m with
  | setCenter c => exact ⟨c, .inl rfl⟩
  | setZoom zoom => exact ⟨v.center, .inr ⟨v.resolutionForZoom zoom, rfl⟩⟩
  | setResolution r => exact ⟨v.center, .inr ⟨r, rfl⟩⟩
  | fitExtent x => exact hfit x
  | resetToWorld => exact hfit inhabitedWorld
  | fitShape shape =>
    change ∃ c, v.fitShape shape = _ ∨ ∃ r, v.fitShape shape = _
    unfold fitShape
    split
    · exact ⟨_, .inl rfl⟩
    · split
      · exact hfit _
      · exact ⟨v.center, .inl rfl⟩
  | snap =>
    change ∃ c, v.snapped = _ ∨ ∃ r, v.snapped = _
    unfold snapped
    split
    · exact ⟨_, .inl rfl⟩
    · exact ⟨v.center, .inl rfl⟩

/-- The limits that are checked are in order on the real line. -/
theorem real_limitsOrdered (h : v.limitsOrdered) : real v.finest ≤ real v.coarsest :=
  (le_iff _ _).mp (of_decide_eq_true h)

namespace Ranged

/-- With limits in order every resolution is moved between them. -/
theorem of_setResolution (levels : v.minZoom ≤ v.maxZoom) (ordered : real v.finest ≤ real v.coarsest) (r : α) :
    (v.setResolution r).Ranged := ⟨levels, Wrap.real_clamp_mem ordered r⟩

/-- The limits are in order. -/
theorem finest_le_coarsest (h : v.Ranged) : real v.finest ≤ real v.coarsest :=
  h.resolution_mem.1.trans h.resolution_mem.2

/-- However the view is changed, the resolution stays between its limits. -/
theorem move (h : v.Ranged) (m : Move α) : (v.move m).Ranged := by
  obtain ⟨c, hmove | ⟨r, hmove⟩⟩ := move_cases v m
  · rw [hmove]
    exact ⟨h.minZoom_le_maxZoom, h.resolution_mem⟩
  · rw [hmove]
    exact of_setResolution (v := v.setCenter c) h.minZoom_le_maxZoom h.finest_le_coarsest r

variable [ExactPowers α]

/-- Either no resolution is negative, or there is just one. -/
theorem finest_nonneg_or_eq (h : v.Ranged) : 0 ≤ real v.finest ∨ real v.finest = real v.coarsest := by
  have hpowers : (2 : ℝ) ^ v.minZoom ≤ 2 ^ v.maxZoom := pow_le_pow_right₀ one_le_two h.minZoom_le_maxZoom
  have hpos : (0 : ℝ) < 2 ^ v.minZoom := by positivity
  have hscale : real v.finest * 2 ^ v.maxZoom = real v.coarsest * 2 ^ v.minZoom := by
    rw [real_finest_mul, real_coarsest_mul]
  by_contra! hnegative
  obtain ⟨hneg, hne⟩ := hnegative
  have hlower : real v.finest * 2 ^ v.maxZoom ≤ real v.finest * 2 ^ v.minZoom :=
    mul_le_mul_of_nonpos_left hpowers hneg.le
  have hupper : real v.finest * 2 ^ v.minZoom < real v.coarsest * 2 ^ v.minZoom :=
    mul_lt_mul_of_pos_right (lt_of_le_of_ne h.finest_le_coarsest hne) hpos
  linarith

end Ranged

/-- Every viewport that can be made has its resolution between its limits. -/
theorem Built.ranged [ExactPowers α] (h : v.Built) : v.Ranged := by
  induction h with
  | new widthPx heightPx =>
    have hsound := sound_new widthPx heightPx
    exact ⟨hsound.minZoom_le_maxZoom, hsound.resolution_mem⟩
  | withTileSize _ hsome ih =>
    unfold withTileSize? at hsome
    dsimp only at hsome
    split at hsome
    · next hordered =>
      cases hsome
      have hlimits := real_limitsOrdered hordered
      exact .of_setResolution (by exact ih.minZoom_le_maxZoom) hlimits _
    · cases hsome
  | withZoomLimits _ hsome _ =>
    unfold withZoomLimits? at hsome
    dsimp only at hsome
    split at hsome
    · next hordered =>
      cases hsome
      exact .of_setResolution min_le_max (real_limitsOrdered hordered) _
    · cases hsome
  | move m _ ih => exact ih.move m

/-- The extent on show is around the centre. -/
theorem center_extent (v : Viewport α) : v.extent.center = v.center := by
  have hmid (x y : α) : (x - y + (x + y)) / 2.0 = x := by
    apply real_injective
    rw [real_div, real_add, real_sub, real_add, real_ofScientific]
    norm_num
  rw [Extent.center, extent, hmid, hmid]

/-- An extent is on show in the middle of the view when the window is as large. -/
theorem le_extent_iff (centred : v.center = x.center) : x ≤ v.extent ↔ v.HoldsAt v.resolution x := by
  have htwo : real (2.0 : α) = 2 := by
    rw [real_ofScientific]
    norm_num
  rw [HoldsAt, le_iff x.width, le_iff x.height, Extent.le_def]
  simp only [extent, centred, Extent.center, Extent.width, Extent.height, real_sub, real_add, real_mul, real_div, htwo]
  constructor
  · rintro ⟨west, south, east, north⟩
    constructor <;> linarith
  · rintro ⟨wide, high⟩
    refine ⟨?_, ?_, ?_, ?_⟩ <;> linarith

/-- A window of some size holds an extent at the resolution that it asks for, and at coarser ones. -/
theorem holdsAt_iff [NumericOrder α] (wide : 0 < real v.widthPx) (high : 0 < real v.heightPx) (r : α) :
    v.HoldsAt r x ↔ real (v.resolutionFor x) ≤ real r := by
  rw [HoldsAt, le_iff x.width, le_iff x.height, resolutionFor, real_max, max_le_iff, real_mul, real_mul, real_div, real_div,
    div_le_iff₀' wide, div_le_iff₀' high]

/-- An extent without size asks for no resolution. -/
theorem resolutionFor_eq_zero [NumericOrder α] (v : Viewport α) (width : x.width = 0.0) (height : x.height = 0.0) :
    real (v.resolutionFor x) = 0 := by
  rw [resolutionFor, width, height, real_max, real_div, real_div, real_zero, zero_div, zero_div, max_self]

variable [ExactFinite α]

/-- Fitting an extent centres the view there, and sets the resolution that the extent asks for, if any. -/
theorem fitExtent_eq (v : Viewport α) (x : Extent α) : v.fitExtent x =
    if 0 < real (v.resolutionFor x) then (v.setCenter x.center).setResolution (v.resolutionFor x)
    else v.setCenter x.center := by
  have hasks : v.resolutionFor x > 0.0 ∧ Scalar.isFinite (v.resolutionFor x) ↔ 0 < real (v.resolutionFor x) := by
    rw [and_iff_left (ExactFinite.isFinite _), gt_iff_lt, lt_iff, real_zero]
  exact if_congr hasks rfl rfl

/-- Whatever extent is fitted, it is in the middle of the view. -/
theorem center_fitExtent (v : Viewport α) (x : Extent α) : (v.fitExtent x).center = x.center := by
  rw [fitExtent_eq]
  split <;> rfl

/-- Fitting leaves the window as it is. -/
theorem holdsAt_fitExtent {r : α} : (v.fitExtent x).HoldsAt r x ↔ v.HoldsAt r x := by
  rw [fitExtent_eq]
  split <;> exact .rfl

variable [NumericOrder α]

/-- An extent without size changes the centre only. -/
theorem fitExtent_of_point (v : Viewport α) (width : x.width = 0.0) (height : x.height = 0.0) :
    v.fitExtent x = v.setCenter x.center := by
  rw [fitExtent_eq, resolutionFor_eq_zero v width height, if_neg (lt_irrefl 0)]

/-- Fitted to an extent, the window holds it if it does so at the coarsest resolution. -/
theorem Ranged.holdsAt_resolution_iff [ExactPowers α] (h : v.Ranged) (wide : 0 < real v.widthPx)
    (high : 0 < real v.heightPx) : v.HoldsAt (v.fitExtent x).resolution x ↔ v.HoldsAt v.coarsest x := by
  rw [holdsAt_iff wide high, holdsAt_iff wide high, fitExtent_eq]
  split
  · exact Wrap.le_clamp_iff h.finest_le_coarsest _
  · next hnone =>
    -- The resolution stays as it was. It is coarse enough when none is negative, and when there is no other.
    refine ⟨fun hle => hle.trans h.resolution_mem.2, fun hle => ?_⟩
    obtain hfinest | hone := h.finest_nonneg_or_eq
    · exact (not_lt.mp hnone).trans (hfinest.trans h.resolution_mem.1)
    · exact hle.trans (hone ▸ h.resolution_mem.1)

/-- Fitted to an extent, all of it is on show if there is room for it at the coarsest resolution. -/
theorem Ranged.le_extent_fitExtent_iff [ExactPowers α] (h : v.Ranged) (wide : 0 < real v.widthPx)
    (high : 0 < real v.heightPx) : x ≤ (v.fitExtent x).extent ↔ v.HoldsAt v.coarsest x := by
  rw [le_extent_iff (center_fitExtent v x), holdsAt_fitExtent, h.holdsAt_resolution_iff wide high]

/-- A shape is fitted like its extent; a point is an extent without size. -/
theorem fitShape_eq (v : Viewport α) {shape : Shape α} :
    v.fitShape shape = ((Extent.ofShape? shape).map v.fitExtent).getD v := by
  unfold fitShape
  split
  · next c =>
    have hpoint := fitExtent_of_point v (Extent.width_ofCoord c) (Extent.height_ofCoord c)
    rw [Extent.center_ofCoord] at hpoint
    exact hpoint.symm
  · split
    · next hsome =>
      rw [hsome]
      rfl
    · next hnone =>
      rw [hnone]
      rfl

end Viewport

namespace Editor

/-- The extents of those shapes on the layer that have one. -/
def extents (e : Editor α) : Set (Extent α) := {x | ∃ shape ∈ e.layer, Extent.ofShape? shape = some x}

variable [NumericOrder α] {e : Editor α} {x : Extent α}

omit [Exact α] [NumericOrder α] in
/-- The extents are listed in the order of the layer. -/
theorem mem_extents_iff : x ∈ e.layer.filterMap Extent.ofShape? ↔ x ∈ e.extents := List.mem_filterMap

omit [Exact α] [NumericOrder α] in
/-- Without a hull there are no extents. -/
theorem extents_of_hull?_none (h : Extent.hull? (e.layer.filterMap Extent.ofShape?) = none) : e.extents = ∅ := by
  rw [Extent.hull?_eq_none_iff] at h
  refine Set.eq_empty_of_forall_notMem fun x mem => List.not_mem_nil (a := x) ?_
  rwa [← h, mem_extents_iff]

/-- The hull of the layer is the least extent around its extents, of which there are some. -/
theorem extents_of_hull?_some (h : Extent.hull? (e.layer.filterMap Extent.ofShape?) = some x) :
    e.extents.Nonempty ∧ IsLUB e.extents x := by
  obtain ⟨hne, hleast⟩ := Extent.hull?_eq_some_iff.mp h
  obtain ⟨first, rest, hcons⟩ := List.exists_cons_of_ne_nil hne
  refine ⟨⟨first, mem_extents_iff.mp (hcons ▸ List.mem_cons_self)⟩, ?_⟩
  have hset : {x | x ∈ e.layer.filterMap Extent.ofShape?} = e.extents := Set.ext fun x => mem_extents_iff
  rwa [hset] at hleast

variable [ExactFinite α]

/-- However many shapes there are, the view is fitted to their hull, if there is one. -/
theorem zoomToSelection_eq_hull (e : Editor α) : e.zoomToSelection =
    ((Extent.hull? (e.layer.filterMap Extent.ofShape?)).map
      fun x => { e with viewport := e.viewport.fitExtent x }).getD e := by
  unfold zoomToSelection
  split
  · next hlayer =>
    rw [hlayer]
    rfl
  · next shape hlayer =>
    have hextents := congrArg (List.filterMap Extent.ofShape?) hlayer
    rw [hextents, Viewport.fitShape_eq]
    cases hshape : Extent.ofShape? shape with
    | none =>
      rw [List.filterMap_cons_none hshape]
      rfl
    | some x =>
      rw [List.filterMap_cons_some hshape]
      rfl
  · split
    · next hsome =>
      rw [hsome]
      rfl
    · next hnone =>
      rw [hnone]
      rfl

/-- With no extents on the layer nothing changes. Otherwise the view is centred on the least extent around them, all of
which is then on show exactly when there is room for it at the coarsest resolution. The resolution is kept for a point
that is alone on the layer, and for an extent without size. -/
theorem zoomToSelection_shows [ExactPowers α] (built : e.viewport.Built) (wide : 0.0 < e.viewport.widthPx)
    (high : 0.0 < e.viewport.heightPx) :
    (e.extents = ∅ → e.zoomToSelection = e) ∧
      (e.extents.Nonempty → ∃ x, IsLUB e.extents x ∧
        e.zoomToSelection.viewport.center = x.center ∧ e.zoomToSelection.viewport.extent.center = x.center ∧
        (x ≤ e.zoomToSelection.viewport.extent ↔ e.viewport.HoldsAt e.viewport.coarsest x) ∧
        ((∃ c, e.layer = [.point c]) ∨ x.width = 0.0 ∧ x.height = 0.0 →
          e.zoomToSelection.viewport.resolution = e.viewport.resolution)) := by
  rw [lt_iff, real_zero] at wide high
  rw [zoomToSelection_eq_hull]
  cases hhull : Extent.hull? (e.layer.filterMap Extent.ofShape?) with
  | none =>
    have hempty := extents_of_hull?_none hhull
    exact ⟨fun _ => rfl, fun hne => absurd hempty hne.ne_empty⟩
  | some x =>
    obtain ⟨hne, hleast⟩ := extents_of_hull?_some hhull
    have hcenter := e.viewport.center_fitExtent x
    refine ⟨fun hempty => absurd hempty hne.ne_empty, fun _ => ⟨x, hleast, hcenter, ?_, ?_, fun hpoint => ?_⟩⟩
    · exact (Viewport.center_extent _).trans hcenter
    · exact built.ranged.le_extent_fitExtent_iff wide high
    · have hsize : x.width = 0.0 ∧ x.height = 0.0 := by
        obtain ⟨c, hlayer⟩ | hsize := hpoint
        · rw [hlayer] at hhull
          obtain rfl : Extent.ofCoord c = x := Option.some_injective _ hhull
          exact ⟨Extent.width_ofCoord c, Extent.height_ofCoord c⟩
        · exact hsize
      have hkept := congrArg Viewport.resolution (e.viewport.fitExtent_of_point hsize.1 hsize.2)
      exact hkept

/-- Two places are on the layer, some kilometres apart, and a line without points. -/
noncomputable def withTwoPlaces : Editor ℝ where
  settings := .default
  viewport := .new 1024 768
  session := .new ⟨fun _ => true, fun _ _ => none, fun ps qs => ps ++ qs⟩
  draw := .new
  layer := [.point ⟨1000, 2000⟩, .polyline [], .point ⟨4000, 6000⟩]
  marker := none
  preview := none
  pendingBuffer := 0
  nextEnabled := true

/-- At the coarsest resolution a pixel is kilometres wide. -/
theorem coarsest_withTwoPlaces : 10000 < withTwoPlaces.viewport.coarsest := by
  have hscale : withTwoPlaces.viewport.coarsest * 2 ^ 2 = (Extent.world : Extent ℝ).width / 256.0 :=
    Viewport.real_coarsest_mul withTwoPlaces.viewport
  have hworld : (Extent.world : Extent ℝ).width = 2 * Real.pi * 6378137 := by
    have hwidth := Extent.real_width (Extent.world : Extent ℝ)
    rw [Extent.real_minX_world, Extent.real_maxX_world, Mercator.real_halfWorld] at hwidth
    refine Eq.trans hwidth ?_
    change Real.pi * 6378137 - -(Real.pi * 6378137) = _
    ring
  rw [hworld] at hscale
  norm_num at hscale
  linarith [Real.pi_gt_three]

/-- Both are on show afterwards. -/
theorem zoomToSelection_shows_withTwoPlaces :
    withTwoPlaces.viewport.Built ∧ 0.0 < withTwoPlaces.viewport.widthPx ∧ 0.0 < withTwoPlaces.viewport.heightPx ∧
      ∃ x, IsLUB withTwoPlaces.extents x ∧ x ≤ withTwoPlaces.zoomToSelection.viewport.extent := by
  have hbuilt : withTwoPlaces.viewport.Built := .new 1024 768
  have hwide : (0.0 : ℝ) < withTwoPlaces.viewport.widthPx := by
    change (0.0 : ℝ) < 1024
    norm_num
  have hhigh : (0.0 : ℝ) < withTwoPlaces.viewport.heightPx := by
    change (0.0 : ℝ) < 768
    norm_num
  obtain ⟨x, hleast, -, -, hshown, -⟩ := (zoomToSelection_shows hbuilt hwide hhigh).2 ⟨_, _, List.mem_cons_self, rfl⟩
  refine ⟨hbuilt, hwide, hhigh, x, hleast, hshown.mpr ?_⟩
  have haround : x ≤ ⟨1000, 2000, 4000, 6000⟩ := by
    refine hleast.2 ?_
    rintro y ⟨shape, hshape, hy⟩
    simp only [withTwoPlaces, List.mem_cons, List.not_mem_nil, or_false] at hshape
    obtain rfl | rfl | rfl := hshape
    · cases hy
      simp [Extent.le_def, Extent.ofCoord, real]
      norm_num
    · cases hy
    · cases hy
      simp [Extent.le_def, Extent.ofCoord, real]
      norm_num
  obtain ⟨west, south, east, north⟩ := haround
  have hroom := coarsest_withTwoPlaces
  change (1000 : ℝ) ≤ x.minX at west
  change (2000 : ℝ) ≤ x.minY at south
  change x.maxX ≤ (4000 : ℝ) at east
  change x.maxY ≤ (6000 : ℝ) at north
  constructor
  · change x.maxX - x.minX ≤ 1024 * _
    linarith
  · change x.maxY - x.minY ≤ 768 * _
    linarith

end Editor

end AreaOfInterest
