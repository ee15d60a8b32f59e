import AreaOfInterest.Proofs.ExactExtents
import AreaOfInterest.Map.Viewport

/-!
# Zoom limits

A viewport keeps its resolution between those of its finest and its coarsest zoom level. This is so when it is made,
when other limits or another tile size are set, and however it is moved, in any order. The limits themselves stay in
order on the way, so that none of these is ever refused, and the zoom level that is shown is an admitted one.

Scalars are exact here, with the powers and logarithms of real numbers.
-/

namespace AreaOfInterest

open Exact

/-- Exact scalars whose powers of two, with their logarithms and whole parts, are those of real numbers. -/
class ExactPowers (α : Type) [Scalar α] [Exact α] : Prop where
  real_exp2 (x : α) : real (Scalar.exp2 x) = 2 ^ real x
  real_log2 (x : α) : real (Scalar.log2 x) = Real.logb 2 (real x)
  toInt32_floor (x : α) : Scalar.toInt32 (Scalar.floor x) = max (-2147483648) (min 2147483647 ⌊real x⌋)

noncomputable instance : ExactPowers ℝ where
  real_exp2 _ := rfl
  real_log2 _ := rfl
  toInt32_floor x := by
    have h : Scalar.toInt32 (Scalar.floor x) =
        max (-2147483648) (min 2147483647 (if (⌊x⌋ : ℝ) < 0 then ⌈(⌊x⌋ : ℝ)⌉ else ⌊(⌊x⌋ : ℝ)⌋)) := rfl
    rw [h, Int.ceil_intCast, Int.floor_intCast, ite_self]
    rfl

variable {α : Type} [Scalar α] [Exact α]

namespace Viewport

/-- What is done with a viewport: its limits, any two levels in any order, or its tile size are set, or it is moved. -/
inductive Call (α : Type) where
  | setZoomLimits (a b : UInt8)
  | setTileSize (tileSize : α)
  | move (m : Move α)

/-- A tile has some size. -/
def Call.Sensible : Call α → Prop
  | setTileSize tileSize => 0 < real tileSize
  | setZoomLimits _ _ | move _ => True

/-- The viewport after a call; none when it is left without a range of resolutions. -/
def call? (v : Viewport α) : Call α → Option (Viewport α)
  | .setZoomLimits a b => v.withZoomLimits? a.toNat b.toNat
  | .setTileSize tileSize => v.withTileSize? tileSize
  | .move m => some (v.move m)

/-- The resolution is within the limits, which are in order, and so is the zoom level. -/
structure WithinLimits (v : Viewport α) : Prop where
  minZoom_le_maxZoom : v.minZoom ≤ v.maxZoom
  limitsOrdered : v.limitsOrdered
  finest_le : v.finest ≤ v.resolution
  le_coarsest : v.resolution ≤ v.coarsest
  resolution_pos : 0 < real v.resolution
  zoomLevel_mem : v.zoomLevel ∈ Set.Icc (v.minZoom : ℤ) v.maxZoom

/-- A map in tiles of some size, with its zoom levels in order. -/
structure Tiled (v : Viewport α) : Prop where
  width_pos : 0 < real v.projection.width
  tileSize_pos : 0 < real v.tileSize
  minZoom_le_maxZoom : v.minZoom ≤ v.maxZoom
  maxZoom_le : v.maxZoom ≤ 255

/-- What every call keeps: such a map, at a resolution within the limits that come from it. -/
structure Sound (v : Viewport α) : Prop extends Tiled v where
  resolution_mem : real v.resolution ∈ Set.Icc (real v.finest) (real v.coarsest)

variable {v : Viewport α}

/-- One tile shows the world at some resolution. -/
theorem Tiled.maxResolution_pos (h : v.Tiled) : 0 < real v.maxResolution := by
  rw [maxResolution, real_div]
  exact div_pos h.width_pos h.tileSize_pos

/-- The limits do not depend on the centre. -/
theorem Sound.setCenter (h : v.Sound) (center : Coord α) : (v.setCenter center).Sound :=
  ⟨⟨h.width_pos, h.tileSize_pos, h.minZoom_le_maxZoom, h.maxZoom_le⟩, h.resolution_mem⟩

variable [ExactPowers α]

/-- At each whole zoom level the resolution is halved. -/
theorem real_resolutionForZoom_ofNat (v : Viewport α) (zoom : Nat) :
    real (v.resolutionForZoom (Scalar.ofNat zoom)) * 2 ^ zoom = real v.maxResolution := by
  rw [resolutionForZoom, real_div, ExactPowers.real_exp2, real_ofNat, Real.rpow_natCast]
  exact div_mul_cancel₀ _ (by positivity)

/-- The finest resolution is that of the highest zoom level. -/
theorem real_finest_mul (v : Viewport α) : real v.finest * 2 ^ v.maxZoom = real v.maxResolution :=
  real_resolutionForZoom_ofNat v v.maxZoom

/-- The coarsest resolution is that of the lowest zoom level. -/
theorem real_coarsest_mul (v : Viewport α) : real v.coarsest * 2 ^ v.minZoom = real v.maxResolution :=
  real_resolutionForZoom_ofNat v v.minZoom

namespace Tiled

/-- The finest resolution shows something. -/
theorem finest_pos (h : v.Tiled) : 0 < real v.finest := by
  have hscale := h.maxResolution_pos
  rw [← real_finest_mul] at hscale
  exact (mul_pos_iff_of_pos_right (by positivity)).mp hscale

/-- A higher zoom level has a finer resolution. -/
theorem finest_le_coarsest (h : v.Tiled) : real v.finest ≤ real v.coarsest := by
  have hpowers : (2 : ℝ) ^ v.minZoom ≤ 2 ^ v.maxZoom := pow_le_pow_right₀ one_le_two h.minZoom_le_maxZoom
  have hpos : (0 : ℝ) < 2 ^ v.minZoom := by positivity
  refine le_of_mul_le_mul_right ?_ hpos
  calc real v.finest * 2 ^ v.minZoom
    _ ≤ real v.finest * 2 ^ v.maxZoom := mul_le_mul_of_nonneg_left hpowers h.finest_pos.le
    _ = real v.coarsest * 2 ^ v.minZoom := by rw [real_finest_mul, real_coarsest_mul]

theorem limitsOrdered (h : v.Tiled) : v.limitsOrdered := decide_eq_true ((le_iff _ _).mpr h.finest_le_coarsest)

/-- Whatever resolution is set, it is moved between the limits. -/
theorem setResolution (h : v.Tiled) (resolution : α) : (v.setResolution resolution).Sound :=
  ⟨⟨h.width_pos, h.tileSize_pos, h.minZoom_le_maxZoom, h.maxZoom_le⟩,
    Wrap.real_clamp_mem h.finest_le_coarsest resolution⟩

/-- Zoom limits can be set to any two levels. -/
theorem withZoomLimits? (h : v.Tiled) (a b : UInt8) : ∃ w, v.withZoomLimits? a.toNat b.toNat = some w ∧ w.Sound := by
  have hlimits : Tiled { v with minZoom := min a.toNat b.toNat, maxZoom := max a.toNat b.toNat } :=
    ⟨h.width_pos, h.tileSize_pos, min_le_max, max_le (Nat.le_of_lt_succ a.toNat_lt) (Nat.le_of_lt_succ b.toNat_lt)⟩
  exact ⟨_, if_pos hlimits.limitsOrdered, hlimits.setResolution v.resolution⟩

/-- Tiles can be of any size. -/
theorem withTileSize? (h : v.Tiled) {tileSize : α} (pos : 0 < real tileSize) :
    ∃ w, v.withTileSize? tileSize = some w ∧ w.Sound := by
  have htiles : Tiled { v with tileSize } := ⟨h.width_pos, pos, h.minZoom_le_maxZoom, h.maxZoom_le⟩
  exact ⟨_, if_pos htiles.limitsOrdered, htiles.setResolution _⟩

end Tiled

namespace Sound

/-- Fitting an extent keeps the resolution, or sets one. -/
theorem fitExtent (h : v.Sound) (e : Extent α) : (v.fitExtent e).Sound := by
  have hcentred := h.setCenter e.center
  unfold Viewport.fitExtent
  dsimp only
  split
  · exact hcentred.setResolution _
  · exact hcentred

/-- Fitting a shape moves the centre, fits an extent or does nothing. -/
theorem fitShape (h : v.Sound) (s : Shape α) : (v.fitShape s).Sound := by
  unfold Viewport.fitShape
  split
  · exact h.setCenter _
  · split
    · exact h.fitExtent _
    · exact h

theorem move (h : v.Sound) (m : Move α) : (v.move m).Sound := by
  cases m with
  | setCenter center => exact h.setCenter center
  | setZoom zoom => exact h.setResolution _
  | setResolution resolution => exact h.setResolution resolution
  | fitExtent e => exact h.fitExtent e
  | fitShape s => exact h.fitShape s
  | resetToWorld => exact h.fitExtent _
  | snap =>
    change v.snapped.Sound
    unfold snapped
    split
    · exact h.setCenter _
    · exact h

/-- Every sensible call can be made, and keeps what is so. -/
theorem call? (h : v.Sound) {call : Call α} (sensible : call.Sensible) : ∃ w, v.call? call = some w ∧ w.Sound := by
  cases call with
  | setZoomLimits a b => exact h.withZoomLimits? a b
  | setTileSize tileSize => exact h.withTileSize? sensible
  | move m => exact ⟨_, rfl, h.move m⟩

/-- So can several calls. -/
theorem foldlM_call? (h : v.Sound) {calls : List (Call α)} (sensible : ∀ call ∈ calls, call.Sensible) :
    ∃ w, calls.foldlM Viewport.call? v = some w ∧ w.Sound := by
  induction calls generalizing v with
  | nil => exact ⟨v, rfl, h⟩
  | cons call rest ih =>
    obtain ⟨hfirst, hrest⟩ := List.forall_mem_cons.mp sensible
    obtain ⟨w, hw, hsound⟩ := h.call? hfirst
    rw [List.foldlM_cons, hw]
    exact ih hsound hrest

theorem resolution_pos (h : v.Sound) : 0 < real v.resolution := h.finest_pos.trans_le h.resolution_mem.1

/-- The resolution of a sound viewport is that of a zoom level between its limits. -/
theorem logb_mem (h : v.Sound) :
    Real.logb 2 (real (v.maxResolution / v.resolution)) ∈ Set.Icc (v.minZoom : ℝ) v.maxZoom := by
  have hpos := h.resolution_pos
  have hratio := div_pos h.maxResolution_pos hpos
  have hpowers (zoom : Nat) : (0 : ℝ) < 2 ^ zoom := by positivity
  obtain ⟨hfinest, hcoarsest⟩ := h.resolution_mem
  rw [real_div]
  constructor
  · rw [Real.le_logb_iff_rpow_le one_lt_two hratio, Real.rpow_natCast, le_div_iff₀ hpos, ← real_coarsest_mul, mul_comm]
    exact mul_le_mul_of_nonneg_right hcoarsest (hpowers _).le
  · rw [Real.logb_le_iff_le_rpow one_lt_two hratio, Real.rpow_natCast, div_le_iff₀ hpos, ← real_finest_mul, mul_comm]
    exact mul_le_mul_of_nonneg_left hfinest (hpowers _).le

/-- Rounded down, the zoom level is still between the limits, since these are whole. -/
theorem zoomLevel_mem (h : v.Sound) : v.zoomLevel ∈ Set.Icc (v.minZoom : ℤ) v.maxZoom := by
  have hlevel : v.zoomLevel =
      max (-2147483648) (min 2147483647 ⌊Real.logb 2 (real (v.maxResolution / v.resolution))⌋) := by
    rw [← ExactPowers.real_log2, ← ExactPowers.toInt32_floor]
    rfl
  have hmax := h.maxZoom_le
  obtain ⟨hlower, hupper⟩ := h.logb_mem
  have hlower' : (v.minZoom : ℤ) ≤ ⌊Real.logb 2 (real (v.maxResolution / v.resolution))⌋ :=
    Int.le_floor.mpr (by exact_mod_cast hlower)
  have hupper' : ⌊Real.logb 2 (real (v.maxResolution / v.resolution))⌋ ≤ (v.maxZoom : ℤ) := by
    exact_mod_cast (Int.floor_le _).trans hupper
  rw [hlevel]
  constructor <;> omega

/-- The limits of a sound viewport bound its resolution and the zoom level that it shows. -/
theorem withinLimits (h : v.Sound) : v.WithinLimits where
  minZoom_le_maxZoom := h.minZoom_le_maxZoom
  limitsOrdered := h.limitsOrdered
  finest_le := (le_iff _ _).mpr h.resolution_mem.1
  le_coarsest := (le_iff _ _).mpr h.resolution_mem.2
  resolution_pos := h.resolution_pos
  zoomLevel_mem := h.zoomLevel_mem

end Sound

/-- A new viewport is sound. -/
theorem sound_new (widthPx heightPx : α) : (new widthPx heightPx).Sound := by
  have htile : 0 < real (defaultTileSize : α) := by
    rw [defaultTileSize, real_ofScientific]
    norm_num
  exact Tiled.setResolution ⟨Extent.width_world_pos α, htile, by norm_num, by norm_num⟩ _

/-- Whatever is done with a viewport, in any order, can be done, and leaves it within its limits. -/
theorem run_withinLimits (widthPx heightPx : α) {calls : List (Call α)} (sensible : ∀ call ∈ calls, call.Sensible) :
    ∃ v, calls.foldlM call? (new widthPx heightPx) = some v ∧ v.WithinLimits := by
  obtain ⟨v, hv, hsound⟩ := (sound_new widthPx heightPx).foldlM_call? sensible
  exact ⟨v, hv, hsound.withinLimits⟩

/-- Limits are turned round and opened as far as they go, tiles are changed, and views are asked for that are out of
reach. -/
noncomputable def wayward : List (Call ℝ) :=
  [.setTileSize 512, .setZoomLimits 9 4, .move (.setZoom 30), .setZoomLimits 0 255, .move (.setResolution (-1)),
    .setTileSize 1, .move (.fitExtent ⟨0, 0, 0, 0⟩), .move .resetToWorld, .setZoomLimits 7 7, .move .snap]

/-- All of it can be done. -/
theorem run_withinLimits_wayward : (∀ call ∈ wayward, call.Sensible) ∧
    ∃ v, wayward.foldlM call? (new 1024 768) = some v ∧ v.WithinLimits := by
  have hsensible : ∀ call ∈ wayward, call.Sensible := by
    simp [wayward, Call.Sensible, real]
  exact ⟨hsensible, run_withinLimits 1024 768 hsensible⟩

end Viewport

end AreaOfInterest
