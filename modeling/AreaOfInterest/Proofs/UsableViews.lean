import AreaOfInterest.Proofs.OrderedArithmetic
import AreaOfInterest.Proofs.Platforms
import AreaOfInterest.Editor

/-!
# Views from settings

Settings of a file are corrected one by one before an editor is made of them: sizes are positive and finite, and the
zoom limits are in order. So there is an editor for every file, and its limits are in order on doubles too, however
tiles are sized. The initial zoom level is taken as it is.

A resolution that is a number ends up between those limits. One that is none passes through, as nothing is below or
above it, and that comes about in two ways: from an initial zoom level that is not a number, and as the quotient of two
infinite numbers.
-/

namespace AreaOfInterest

namespace Double

/-- The width of the world is so large that a finite part of it is never rounded to nothing. -/
theorem width_div_pos {size : Float} (pos : size > 0.0) (finite : size.isFinite) :
    (Extent.world : Extent Float).width / size > 0.0 := by
  obtain ⟨width, hwidth⟩ : ∃ width : Float, (Extent.world : Extent Float).width = width := ⟨_, rfl⟩
  obtain ⟨largest, hlargest⟩ : ∃ largest : Float, Float.ofBits 0x7FEFFFFFFFFFFFFF = largest := ⟨_, rfl⟩
  obtain ⟨hfinite, hlast, hbelow, hleast⟩ : largest.isFinite ∧ steps largest = 2047 * 2 ^ 52 - 1 ∧
      (0.0 : Float) ≤ width ∧ (0.0 : Float) < width / largest := by
    rw [← hwidth, ← hlargest]
    decide +kernel
  have hsize : size ≤ largest := by
    rw [le_iff_steps (isNaN_of_isFinite finite) (isNaN_of_isFinite hfinite), hlast]
    have := (steps_of_isFinite finite).2
    omega
  have hle : width / largest ≤ width / size :=
    div_anti hbelow (value_pos pos finite) ((le_iff_value finite hfinite).mp hsize)
  obtain ⟨hn, hn'⟩ := numbers_of_le hle
  rw [lt_iff_steps rfl hn] at hleast
  rw [le_iff_steps hn hn'] at hle
  rw [hwidth]
  exact (lt_iff_steps rfl hn').mpr (hleast.trans_le hle)

end Double

namespace Viewport

/-- A view that can be used: its resolution is a number between those of its limits. -/
structure IsUsable {α : Type} [Scalar α] (v : Viewport α) : Prop where
  number : Scalar.isNaN v.resolution = false
  finest_le : v.finest ≤ v.resolution
  le_coarsest : v.resolution ≤ v.coarsest

variable {p : Platform}

/-- A view of the world in tiles of some size, with its zoom levels in order. -/
structure ShowsWorld (v : Viewport p.Number) : Prop where
  projection : v.projection = .world
  tileSize_pos : v.tileSize > 0.0
  tileSize_finite : Scalar.isFinite v.tileSize
  minZoom_le_maxZoom : v.minZoom ≤ v.maxZoom
  maxZoom_le : v.maxZoom ≤ 255

namespace ShowsWorld

variable {v : Viewport p.Number}

/-- One tile shows the whole world at some resolution. -/
theorem maxResolution_pos (h : v.ShowsWorld) : v.maxResolution > 0.0 := by
  rw [maxResolution, h.projection]
  exact Double.width_div_pos h.tileSize_pos h.tileSize_finite

/-- Higher zoom levels have finer resolutions. -/
theorem finest_le_coarsest (h : v.ShowsWorld) (hp : p.PowersOfTwo) : v.finest ≤ v.coarsest := by
  have hmin := h.minZoom_le_maxZoom.trans h.maxZoom_le
  refine Double.div_anti (Double.le_iff.mpr (.inl h.maxResolution_pos))
    (Double.value_pos (hp.pos hmin) (hp.finite hmin)) ?_
  exact (Double.le_iff_value (hp.finite hmin) (hp.finite h.maxZoom_le)).mp (hp.mono h.minZoom_le_maxZoom h.maxZoom_le)

/-- The limits are in order. -/
theorem limitsOrdered (h : v.ShowsWorld) (hp : p.PowersOfTwo) : v.limitsOrdered :=
  decide_eq_true (h.finest_le_coarsest hp)

/-- Whatever resolution is set, the view shows the world. -/
theorem setResolution (h : v.ShowsWorld) (resolution : p.Number) : (v.setResolution resolution).ShowsWorld :=
  ⟨h.projection, h.tileSize_pos, h.tileSize_finite, h.minZoom_le_maxZoom, h.maxZoom_le⟩

/-- Tiles can be of any size. -/
theorem withTileSize? (h : v.ShowsWorld) (hp : p.PowersOfTwo) {size : p.Number} (pos : size > 0.0)
    (finite : Scalar.isFinite size) :
    ∃ w, v.withTileSize? size = some w ∧ w.ShowsWorld := by
  have hsized : ShowsWorld { v with tileSize := size } :=
    ⟨h.projection, pos, finite, h.minZoom_le_maxZoom, h.maxZoom_le⟩
  exact ⟨_, if_pos (hsized.limitsOrdered hp), hsized.setResolution _⟩

/-- Zoom limits can be set to any two levels. -/
theorem withZoomLimits? (h : v.ShowsWorld) (hp : p.PowersOfTwo) {a b : Nat} (ha : a ≤ 255) (hb : b ≤ 255) :
    ∃ w, v.withZoomLimits? a b = some w ∧ w.ShowsWorld := by
  have hlimited : ShowsWorld { v with minZoom := min a b, maxZoom := max a b } :=
    ⟨h.projection, h.tileSize_pos, h.tileSize_finite, min_le_max, max_le ha hb⟩
  exact ⟨_, if_pos (hlimited.limitsOrdered hp), hlimited.setResolution _⟩

/-- The resolution of a zoom level is not a number when the level is none, or when it is made of two infinite ones. -/
theorem isNaN_resolutionForZoom_iff (h : v.ShowsWorld) (hp : p.PowersOfTwo) (zoom : p.Number) :
    Scalar.isNaN (v.resolutionForZoom zoom) ↔
      Scalar.isNaN zoom ∨ ¬Scalar.isFinite v.maxResolution ∧ ¬Scalar.isFinite (Scalar.exp2 zoom) := by
  have hpower : Scalar.isNaN (Scalar.exp2 zoom) = Scalar.isNaN zoom := hp.isNaN_exp2 zoom
  rw [← hpower]
  exact Double.isNaN_div_iff h.maxResolution_pos

/-- A resolution that is a number is moved between the limits. -/
theorem isUsable_setResolution (h : v.ShowsWorld) (hp : p.PowersOfTwo) {resolution : p.Number}
    (number : Scalar.isNaN resolution = false) : (v.setResolution resolution).IsUsable := by
  obtain ⟨hlow, hhigh⟩ := Double.clamp_mem (h.finest_le_coarsest hp) number
  exact ⟨(Double.numbers_of_le hlow).2, hlow, hhigh⟩

/-- One that is not a number stays as it is. -/
theorem isNaN_setResolution {resolution : p.Number} (none : Scalar.isNaN resolution) :
    Scalar.isNaN (v.setResolution resolution).resolution := by
  have hsame : (v.setResolution resolution).resolution = resolution := Double.clamp_of_isNaN none
  rwa [hsame]

end ShowsWorld

/-- Tiles have some size unless it is set otherwise. -/
theorem defaultTileSize_spec : (defaultTileSize : p.Number) > 0.0 ∧ Scalar.isFinite (defaultTileSize : p.Number) := by
  have h : (defaultTileSize : Float) > 0.0 ∧ (defaultTileSize : Float).isFinite := by decide +kernel
  exact h

/-- A new view shows the world. -/
theorem showsWorld_new (width height : p.Number) : (new width height).ShowsWorld :=
  ⟨rfl, defaultTileSize_spec.1, defaultTileSize_spec.2, (by decide : 2 ≤ 22), (by decide : 22 ≤ 255)⟩

end Viewport

namespace EditorSettings

/-- What is taken in place of a value is positive and finite when the fallback is. -/
theorem positiveOr_spec {α : Type} [Scalar α] (value : α) {fallback : α}
    (h : fallback > 0.0 ∧ Scalar.isFinite fallback) :
    positiveOr value fallback > 0.0 ∧ Scalar.isFinite (positiveOr value fallback) := by
  rw [positiveOr]
  split
  · assumption
  · exact h

end EditorSettings

namespace Editor

variable {p : Platform}

/-- There is an editor for all settings with tiles of some size. -/
theorem exists_new? (hp : p.PowersOfTwo) (settings : EditorSettings p.Number)
    (size : settings.tileSize > 0.0 ∧ Scalar.isFinite settings.tileSize) (minZoom : settings.minZoom ≤ 255)
    (maxZoom : settings.maxZoom ≤ 255) (ops : PlanarOps p.Number) :
    ∃ (e : Editor p.Number) (v : Viewport p.Number), Editor.new? settings ops = some e ∧ v.ShowsWorld ∧
      e.viewport = v.setZoom settings.initialZoom := by
  obtain ⟨tiled, htiled, hworld⟩ :=
    (Viewport.showsWorld_new settings.viewportWidth settings.viewportHeight).withTileSize? hp size.1 size.2
  obtain ⟨limited, hlimited, hworld⟩ := hworld.withZoomLimits? hp minZoom maxZoom
  have hviewport : (Editor.new? settings ops).map (·.viewport) = some (limited.setZoom settings.initialZoom) := by
    rw [Editor.new?, htiled, Option.bind_eq_bind, Option.bind_some, hlimited]
    rfl
  obtain ⟨e, hnew, hview⟩ := Option.map_eq_some_iff.mp hviewport
  exact ⟨e, limited, hnew, hworld, hview⟩

/-- Every file gives an editor with a view that can be used, unless its initial zoom level is not a number or overflows
together with the resolution at which one tile shows the world. Then the resolution of the view is not a number. -/
theorem exists_new?_ofFile (hp : p.PowersOfTwo) (file : FileSettings p.Number) (minZoom : file.minZoom ≤ 255)
    (maxZoom : file.maxZoom ≤ 255) (ops : PlanarOps p.Number) :
    ∃ e, Editor.new? (.ofFile file) ops = some e ∧
      (e.viewport.IsUsable ∨ Scalar.isNaN e.viewport.resolution) ∧
      (e.viewport.IsUsable ↔ ¬Scalar.isNaN file.initialZoom ∧
        (Scalar.isFinite e.viewport.maxResolution ∨ Scalar.isFinite (Scalar.exp2 file.initialZoom))) := by
  have hsize := EditorSettings.positiveOr_spec file.tileSize (Viewport.defaultTileSize_spec (p := p))
  obtain ⟨e, v, hnew, hworld, hview⟩ := exists_new? hp (.ofFile file) hsize
    ((min_le_left _ _).trans minZoom) (max_le maxZoom minZoom) ops
  have hnumber : ¬Scalar.isNaN (v.resolutionForZoom file.initialZoom) ↔ ¬Scalar.isNaN file.initialZoom ∧
      (Scalar.isFinite v.maxResolution ∨ Scalar.isFinite (Scalar.exp2 file.initialZoom)) := by
    rw [hworld.isNaN_resolutionForZoom_iff hp, not_or, not_and_or, not_not, not_not]
  have hscale : e.viewport.maxResolution = v.maxResolution := by
    rw [hview]
    rfl
  refine ⟨e, hnew, ?_⟩
  rw [hscale, hview, ← hnumber]
  obtain hn | hn := Bool.eq_false_or_eq_true (Scalar.isNaN (v.resolutionForZoom file.initialZoom))
  · have hnone : Scalar.isNaN (v.setZoom file.initialZoom).resolution := Viewport.ShowsWorld.isNaN_setResolution hn
    have hunusable : ¬(v.setZoom file.initialZoom).IsUsable := fun h => by
      rw [h.number] at hnone
      cases hnone
    exact ⟨.inr hnone, iff_of_false hunusable (not_not.mpr hn)⟩
  · have husable : (v.setZoom file.initialZoom).IsUsable := hworld.isUsable_setResolution hp hn
    exact ⟨.inl husable, iff_of_true husable (Bool.eq_false_iff.mp hn)⟩

end Editor

namespace Platform

/-- A platform whose powers of two are those of the levels 2 and 22, which stand for those around them. -/
def twoPowers : Platform := { native with exp2 := Double.stepAt 3.0 4.0 4194304.0 }

/-- They are in order. -/
theorem powersOfTwo_twoPowers : PowersOfTwo twoPowers := by
  have hmono : Double.IsMonotone twoPowers.exp2 :=
    Double.isMonotone_stepAt (by decide +kernel) (by decide +kernel)
  have hvalue (z : Float) : z.isNaN ∨ twoPowers.exp2 z = 4.0 ∨ twoPowers.exp2 z = 4194304.0 := by
    obtain hz | hz := Bool.eq_false_or_eq_true z.isNaN
    · exact .inl hz
    · have hstep : twoPowers.exp2 z = if z < 3.0 then 4.0 else 4194304.0 := if_neg (Bool.eq_false_iff.mp hz)
      rw [hstep]
      split
      · exact .inr (.inl rfl)
      · exact .inr (.inr rfl)
  have hlevel {n : Nat} (level : n ≤ 255) :
      twoPowers.exp2 (Scalar.ofNat n) = 4.0 ∨ twoPowers.exp2 (Scalar.ofNat n) = 4194304.0 := by
    refine (hvalue _).resolve_left (Bool.eq_false_iff.mp ?_)
    exact (Double.numbers_of_le (Double.ofNat_le_ofNat le_rfl (by omega))).1
  refine ⟨fun z => ?_, fun level => ?_, fun level => ?_, fun h level => hmono.mono (Double.ofNat_le_ofNat h (by omega))⟩
  · obtain hz | hz := Bool.eq_false_or_eq_true z.isNaN
    · rw [hz, hmono.isNaN hz]
    · obtain h | h | h := hvalue z
      · rw [h] at hz
        cases hz
      · rw [hz, h]
        decide +kernel
      · rw [hz, h]
        decide +kernel
  · obtain h | h := hlevel level <;> rw [h] <;> decide +kernel
  · obtain h | h := hlevel level <;> rw [h] <;> decide +kernel

end Platform

namespace Editor

/-- The default settings have a view that can be used. -/
theorem exists_new?_ofFile_default :
    Platform.PowersOfTwo .twoPowers ∧ (FileSettings.default : FileSettings Platform.twoPowers.Number).minZoom ≤ 255 ∧
      (FileSettings.default : FileSettings Platform.twoPowers.Number).maxZoom ≤ 255 ∧
      ∃ e, Editor.new? (.ofFile .default) Platform.twoPowers.planarOps = some e ∧
        e.viewport.IsUsable := by
  obtain ⟨e, hnew, -, husable⟩ := exists_new?_ofFile Platform.powersOfTwo_twoPowers .default
    (by decide) (by decide) Platform.twoPowers.planarOps
  have hnumber : (2.0 : Float).isNaN = false ∧ (Platform.twoPowers.exp2 2.0).isFinite := by decide +kernel
  exact ⟨Platform.powersOfTwo_twoPowers, by decide, by decide, e, hnew,
    husable.mpr ⟨Bool.eq_false_iff.mp hnumber.1, .inr hnumber.2⟩⟩

/-- The default settings with an initial zoom level that is not a number. -/
def withoutInitialZoom : FileSettings Platform.twoPowers.Number :=
  { FileSettings.default with initialZoom := 0.0 / 0.0 }

/-- They have no view that can be used. -/
theorem not_isUsable_withoutInitialZoom :
    withoutInitialZoom.minZoom ≤ 255 ∧ withoutInitialZoom.maxZoom ≤ 255 ∧
      ¬∃ e, Editor.new? (.ofFile withoutInitialZoom) Platform.twoPowers.planarOps = some e ∧ e.viewport.IsUsable := by
  refine ⟨by decide, by decide, ?_⟩
  rintro ⟨e, hnew, husable⟩
  have hsize := EditorSettings.positiveOr_spec withoutInitialZoom.tileSize Viewport.defaultTileSize_spec
  obtain ⟨e', v, hnew', hworld, hview⟩ := exists_new? Platform.powersOfTwo_twoPowers
    (.ofFile withoutInitialZoom) hsize (by decide) (by decide) Platform.twoPowers.planarOps
  obtain rfl : e' = e := Option.some_injective _ (hnew'.symm.trans hnew)
  have hzoom : ((0.0 : Float) / 0.0).isNaN := by decide +kernel
  have hnone : Scalar.isNaN e'.viewport.resolution := by
    rw [hview]
    exact Viewport.ShowsWorld.isNaN_setResolution
      ((hworld.isNaN_resolutionForZoom_iff Platform.powersOfTwo_twoPowers _).mpr (.inl hzoom))
  rw [husable.number] at hnone
  cases hnone

end Editor

end AreaOfInterest
