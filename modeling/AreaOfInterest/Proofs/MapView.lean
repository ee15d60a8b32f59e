import AreaOfInterest.Proofs.ExactExtents
import AreaOfInterest.Proofs.Views

/-!
# Selecting what the map shows

The extent on show is selected with its two vertical edges shifted back into the valid extent, each on its own. When
neither has to be shifted, what is selected is what is on show. When one has, it comes back on the other side of the
other edge, and what is selected is the rest of the world.

Scalars are exact here. The view is at most one world wide, and its centre is within the valid extent, so at most one of
its edges is outside, and less than one world away.
-/

namespace AreaOfInterest

open Exact

variable {α : Type} [Scalar α] [Exact α]

namespace Extent

/-- An extent lies between the vertical edges of another one. -/
def IsWithin (e projection : Extent α) : Prop := projection.minX ≤ e.minX ∧ e.maxX ≤ projection.maxX

/-- A place is on an extent, there or a number of projections away. -/
def Spans (e projection : Extent α) (x : ℝ) : Prop :=
  ∃ n : ℤ, x + n * real projection.width ∈ Set.Icc (real e.minX) (real e.maxX)

/-- One extent goes from the right edge of another one to where its left edge is repeated. -/
def IsRestOf (rest e projection : Extent α) : Prop :=
  ∃ n : ℤ, real rest.minX = real e.maxX + n * real projection.width ∧
    real rest.maxX = real e.minX + (n + 1) * real projection.width

variable {e rest projection : Extent α}

/-- An extent lies between the edges of another one when it does so on the real line. -/
theorem isWithin_iff :
    e.IsWithin projection ↔ real projection.minX ≤ real e.minX ∧ real e.maxX ≤ real projection.maxX := by
  rw [IsWithin, le_iff projection.minX e.minX, le_iff e.maxX projection.maxX]

/-- The width of the rest is what the extent lacks of the projection. -/
theorem IsRestOf.width_eq (h : rest.IsRestOf e projection) : rest.width = projection.width - e.width := by
  obtain ⟨n, west, east⟩ := h
  apply real_injective
  rw [real_width rest, west, east, real_sub projection.width, real_width e]
  ring

/-- The rest has nothing of the extent on it but the edges. -/
theorem IsRestOf.not_spans (h : rest.IsRestOf e projection) (wide : 0 < real projection.width) {x : ℝ}
    (between : x ∈ Set.Ioo (real e.minX) (real e.maxX)) : ¬ rest.Spans projection x := by
  obtain ⟨n, west, east⟩ := h
  rintro ⟨m, hwest, heast⟩
  rw [west] at hwest
  rw [east] at heast
  have hlower : (n : ℝ) < m := by nlinarith [between.2]
  have hupper : (m : ℝ) < n + 1 := by nlinarith [between.1]
  norm_cast at hlower hupper
  omega

end Extent

/-- After the centre was brought back it is within the world, and the extent on show lies around it. -/
theorem Viewport.Built.centred {v : Viewport α} (h : v.Built) :
    real v.snapped.extent.minX + real v.snapped.extent.maxX ∈
      Set.Icc (2 * real (Extent.world : Extent α).minX) (2 * real (Extent.world : Extent α).maxX) := by
  have hordered : real (Extent.world : Extent α).minX ≤ real (Extent.world : Extent α).maxX := by
    linarith [Extent.width_world_pos α, Extent.real_width (Extent.world : Extent α)]
  have hcenter : real v.snapped.center.x ∈
      Set.Icc (real (Extent.world : Extent α).minX) (real (Extent.world : Extent α).maxX) := by
    unfold snapped isOutside
    rw [h.projection_eq]
    split
    · exact Wrap.unwrapX_mem hordered _
    · next hinside => exact Wrap.not_isOutside_iff.mp hinside
  simp only [extent, real_sub, real_add]
  constructor <;> linarith [hcenter.1, hcenter.2]

namespace Wrap

variable {e projection : Extent α}

/-- Of an extent that is at most as wide as the projection, with its centre in it, either no edge is shifted back, or the
left edge is shifted by one projection more to the right than the right edge is. -/
theorem unwrapExtent_cases (wide : 0 < real projection.width) (ordered : e.minX ≤ e.maxX)
    (narrow : e.width ≤ projection.width)
    (centred : real e.minX + real e.maxX ∈ Set.Icc (2 * real projection.minX) (2 * real projection.maxX)) :
    e.IsWithin projection ∧ unwrapExtent e projection = e ∨
      ¬ e.IsWithin projection ∧ ∃ n : ℤ,
        real (unwrapExtent e projection).minX = real e.minX + (n + 1) * real projection.width ∧
          real (unwrapExtent e projection).maxX = real e.maxX + n * real projection.width := by
  obtain ⟨hlower, hupper⟩ := centred
  have hwidth := Extent.real_width projection
  rw [le_iff] at ordered
  rw [le_iff, Extent.real_width e] at narrow
  rw [Extent.isWithin_iff]
  by_cases hwest : real projection.minX ≤ real e.minX
  · have hminX : unwrapX e.minX projection = e.minX := unwrapX_of_mem ⟨hwest, by linarith⟩
    by_cases heast : real e.maxX ≤ real projection.maxX
    · have hmaxX : unwrapX e.maxX projection = e.maxX := unwrapX_of_mem ⟨by linarith, heast⟩
      exact .inl ⟨⟨hwest, heast⟩, by simp only [unwrapExtent, hminX, hmaxX]⟩
    · -- The right edge comes back on the left of the left one.
      have hmaxX : real (unwrapX e.maxX projection) = real e.maxX + (-1 : ℤ) * real projection.width :=
        real_unwrapX wide (isOutside_iff.mpr (.inr (not_le.mp heast))) (by push_cast; constructor <;> linarith)
      refine .inr ⟨fun h => heast h.2, -1, ?_, hmaxX⟩
      simp [unwrapExtent, hminX]
  · -- The left edge comes back on the right of the right one.
    have hmaxX : unwrapX e.maxX projection = e.maxX := unwrapX_of_mem ⟨by linarith, by linarith⟩
    have hminX : real (unwrapX e.minX projection) = real e.minX + (1 : ℤ) * real projection.width :=
      real_unwrapX wide (isOutside_iff.mpr (.inl (not_le.mp hwest))) (by push_cast; constructor <;> linarith)
    refine .inr ⟨fun h => hwest h.1, 0, ?_, ?_⟩
    · simpa [unwrapExtent] using hminX
    · simp [unwrapExtent, hmaxX]

/-- The rectangle around an extent with its edges shifted back is the one around the extent, or around the rest of the
projection at the same height. -/
theorem ofShape?_unwrapExtent (wide : 0 < real projection.width) (ordered : e.minX ≤ e.maxX) (upright : e.minY ≤ e.maxY)
    (narrow : e.width ≤ projection.width)
    (centred : real e.minX + real e.maxX ∈ Set.Icc (2 * real projection.minX) (2 * real projection.maxX)) :
    ∃ shown, Extent.ofShape? (.polygon (unwrapExtent e projection).polygon) = some shown ∧ shown.height = e.height ∧
      (e.IsWithin projection ∧ shown = e ∨ ¬ e.IsWithin projection ∧ shown.IsRestOf e projection) := by
  obtain ⟨shown, hshown, hminX, hmaxX, hminY, hmaxY⟩ := Extent.ofShape?_polygon (unwrapExtent e projection)
  have hordered : real e.minX ≤ real e.maxX := (le_iff _ _).mp ordered
  have hupright : real e.minY ≤ real e.maxY := (le_iff _ _).mp upright
  have hbottom : real shown.minY = real e.minY := hminY.trans (min_eq_left hupright)
  have htop : real shown.maxY = real e.maxY := hmaxY.trans (max_eq_right hupright)
  refine ⟨shown, hshown, ?_, ?_⟩
  · rw [Extent.height, Extent.height, real_injective hbottom, real_injective htop]
  · obtain ⟨hinside, hkept⟩ | ⟨houtside, n, hwest, heast⟩ := unwrapExtent_cases wide ordered narrow centred
    · rw [hkept] at hminX hmaxX
      exact .inl ⟨hinside, Extent.eq_of_real (hminX.trans (min_eq_left hordered)) hbottom
        (hmaxX.trans (max_eq_right hordered)) htop⟩
    · have hcrossed : real e.maxX + n * real projection.width ≤ real e.minX + (n + 1) * real projection.width := by
        rw [le_iff, Extent.real_width e] at narrow
        linarith
      rw [hwest, heast] at hminX hmaxX
      exact .inr ⟨houtside, n, hminX.trans (min_eq_right hcrossed), hmaxX.trans (max_eq_left hcrossed)⟩

end Wrap

namespace Editor

variable [Surface α] {settings : EditorSettings α} {ops : PlanarOps α} {history : History α} {e : Editor α}

omit [Exact α] in
/-- What is selected is the rectangle around the extent on show, after the centre was brought back and each edge. -/
theorem Reached.layer_selectMapView (hr : Reached settings ops history e) : e.selectMapView.layer =
    [.polygon (Wrap.unwrapExtent e.viewport.snapped.extent .world).polygon] := by
  have hworld : (e.handle .cancel).viewport.projection = .world := by
    rw [← hr.built.projection_eq]
    exact Viewport.projection_snapped _
  change [Shape.polygon (Wrap.unwrapExtent (e.handle .cancel).viewport.extent _).polygon] = _
  rw [hworld]
  rfl

/-- Selecting what the map shows gives an extent as high as the one on show. If the one on show lies between the edges
of the world, the two are the same. Otherwise it is the rest of the world: it is as wide only if half of the world is
on show, and it has nothing on it of what is strictly between the edges of the view. -/
theorem Reached.mapView_iff (hr : Reached settings ops history e) {visible : Extent α}
    (onShow : e.viewport.snapped.extent = visible) (ordered : visible.minX ≤ visible.maxX)
    (upright : visible.minY ≤ visible.maxY) (narrow : visible.width ≤ (Extent.world : Extent α).width) :
    ∃ shape selected, e.selectMapView.layer = [shape] ∧ Extent.ofShape? shape = some selected ∧
      selected.height = visible.height ∧
      (selected.width = visible.width ↔
        visible.IsWithin .world ∨ visible.width + visible.width = (Extent.world : Extent α).width) ∧
      (visible.IsWithin .world → selected = visible) ∧
      (¬ visible.IsWithin .world → selected.width = (Extent.world : Extent α).width - visible.width ∧
        ∀ x ∈ Set.Ioo (real visible.minX) (real visible.maxX), ¬ selected.Spans .world x) := by
  have hwide := Extent.width_world_pos α
  have hcentred := hr.built.centred
  rw [onShow] at hcentred
  obtain ⟨selected, hselected, hheight, hcases⟩ := Wrap.ofShape?_unwrapExtent hwide ordered upright narrow hcentred
  rw [← onShow] at hselected
  refine ⟨_, selected, hr.layer_selectMapView, hselected, hheight, ?_⟩
  obtain ⟨hinside, hsame⟩ | ⟨houtside, hrest⟩ := hcases
  · exact ⟨iff_of_true (congrArg _ hsame) (.inl hinside), fun _ => hsame, fun h => absurd hinside h⟩
  · refine ⟨?_, fun h => absurd h houtside, fun _ => ⟨hrest.width_eq, fun x => hrest.not_spans hwide⟩⟩
    have hsum : real (visible.width + visible.width) = real visible.width + real visible.width := real_add _ _
    have hrestWidth : real selected.width = real (Extent.world : Extent α).width - real visible.width := by
      rw [hrest.width_eq]
      exact real_sub _ _
    rw [or_iff_right houtside]
    constructor
    · intro h
      rw [h] at hrestWidth
      exact real_injective (by linarith)
    · intro h
      rw [h] at hsum
      exact real_injective (by linarith)

/-- The map shows four ninths of the world, about its middle. -/
def amidTheMap : Editor Rat := FlatWorld.start.run [.moveView (.setZoom 8)]

/-- What it shows is what is selected. -/
theorem mapView_amidTheMap :
    ∃ shape, amidTheMap.selectMapView.layer = [shape] ∧
      Extent.ofShape? shape = some amidTheMap.viewport.snapped.extent := by
  have hr := (Reached.new FlatWorld.new?_eq_start).run [.moveView (.setZoom 8)]
  have hinside : amidTheMap.viewport.snapped.extent.IsWithin .world := ⟨by decide +kernel, by decide +kernel⟩
  obtain ⟨shape, selected, hlayer, hselected, -, -, hsame, -⟩ :=
    hr.mapView_iff rfl (by decide +kernel) (by decide +kernel) (by decide +kernel)
  exact ⟨shape, hlayer, hselected.trans (congrArg some (hsame hinside))⟩

/-- The map shows four ninths of the world, around its right edge. -/
def overTheDateLine : Editor Rat :=
  FlatWorld.start.run [.moveView (.setZoom 8), .moveView (.setCenter ⟨Mercator.halfWorld, 0⟩)]

/-- The other five ninths are selected. -/
theorem mapView_ne_overTheDateLine :
    (∃ history, Reached .default FlatWorld.planarOps history overTheDateLine) ∧
      overTheDateLine.viewport.snapped.extent.width ≤ (Extent.world : Extent Rat).width ∧
      ∃ shape selected, overTheDateLine.selectMapView.layer = [shape] ∧ Extent.ofShape? shape = some selected ∧
        selected.width ≠ overTheDateLine.viewport.snapped.extent.width := by
  have hr := (Reached.new FlatWorld.new?_eq_start).run
    [.moveView (.setZoom 8), .moveView (.setCenter ⟨Mercator.halfWorld, 0⟩)]
  exact ⟨⟨_, hr⟩, by decide +kernel, _, _, hr.layer_selectMapView, (Option.some_get (by decide +kernel)).symm,
    by decide +kernel⟩

end Editor

end AreaOfInterest
