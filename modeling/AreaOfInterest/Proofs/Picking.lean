import AreaOfInterest.Proofs.Boxes
import AreaOfInterest.Proofs.Dragging
import AreaOfInterest.Proofs.EqualNumbers
import AreaOfInterest.Proofs.Outcomes
import Mathlib.Data.Prod.Lex

/-!
# Picking a vertex

The vertices on a layer have their places: of the shape, of the polygon within it, and of the vertex within the exterior.
Listed shape by shape and polygon by polygon they come in the order of these places. What is picked is the first vertex
of the list that is near the pixel, and so the one with the least place of all that are.

The two ends of a closed ring are equal positions. They are near the same pixels, so the second one is never picked.
-/

namespace AreaOfInterest

variable {α : Type}

/-- In the order of a key, what is found has the least key of all that fit. -/
theorem find?_eq_some_iff_least {β κ : Type} [LinearOrder κ] {key : β → κ} {p : β → Bool} {l : List β}
    (sorted : l.Pairwise (key · < key ·)) {b : β} :
    l.find? p = some b ↔ b ∈ l ∧ p b ∧ ∀ a ∈ l, p a → key b ≤ key a := by
  induction l with
  | nil => simp
  | cons a l ih =>
    obtain ⟨hfirst, hsorted⟩ := List.pairwise_cons.mp sorted
    by_cases ha : p a
    · rw [List.find?_cons_of_pos ha, Option.some.injEq]
      constructor
      · rintro rfl
        refine ⟨List.mem_cons_self, ha, fun c hc _ => ?_⟩
        obtain rfl | hc := List.mem_cons.mp hc
        · exact le_rfl
        · exact (hfirst c hc).le
      · rintro ⟨hb, -, hleast⟩
        obtain rfl | hb := List.mem_cons.mp hb
        · rfl
        · exact absurd (hfirst b hb) (not_lt.mpr (hleast a List.mem_cons_self ha))
    · rw [List.find?_cons_of_neg ha, ih hsorted]
      simp only [List.mem_cons, forall_eq_or_imp]
      constructor
      · rintro ⟨hb, hpb, hleast⟩
        exact ⟨.inr hb, hpb, fun hpa => absurd hpa ha, hleast⟩
      · rintro ⟨rfl | hb, hpb, -, hleast⟩
        · exact absurd hpb ha
        · exact ⟨hb, hpb, hleast⟩

/-- Places in a list come in order. -/
theorem pairwise_snd_zipIdx {β : Type} (l : List β) : l.zipIdx.Pairwise (·.2 < ·.2) := by
  have hplaces : (l.zipIdx.map Prod.snd).Pairwise (· < ·) := by
    rw [List.zipIdx_map_snd]
    exact List.pairwise_lt_range'
  exact List.pairwise_map.mp hplaces

namespace VertexDrag

/-- The places of a shape, a polygon and a vertex, of which the first ones count most. -/
def place (drag : VertexDrag α) : ℕ ×ₗ ℕ ×ₗ ℕ := toLex (drag.feature, toLex (drag.polygon, drag.vertex))

/-- The vertices of a polygon's exterior. -/
def ofPolygon (feature polygon : ℕ) (p : Polygon α) : List (VertexDrag α) :=
  p.exterior.zipIdx.map fun (coordinate, vertex) => { feature, polygon, vertex, coordinate }

/-- The vertices of all polygons of a shape. -/
def ofShape (feature : ℕ) (shape : Shape α) : List (VertexDrag α) :=
  shape.polygons.zipIdx.flatMap fun (p, polygon) => ofPolygon feature polygon p

/-- The vertices of all shapes on a layer. -/
def ofLayer (layer : List (Shape α)) : List (VertexDrag α) :=
  layer.zipIdx.flatMap fun (shape, feature) => ofShape feature shape

/-- One place is before another one when the first part that differs is the lesser one. -/
theorem place_lt_iff {a b : VertexDrag α} :
    a.place < b.place ↔ a.feature < b.feature ∨
      a.feature = b.feature ∧ (a.polygon < b.polygon ∨ a.polygon = b.polygon ∧ a.vertex < b.vertex) := by
  simp only [place, Prod.Lex.toLex_lt_toLex]

variable {feature polygon : ℕ} {p : Polygon α} {shape : Shape α} {layer : List (Shape α)} {drag : VertexDrag α}

/-- What the vertices of a polygon are. -/
theorem mem_ofPolygon_iff :
    drag ∈ ofPolygon feature polygon p ↔
      drag.feature = feature ∧ drag.polygon = polygon ∧ p.exterior[drag.vertex]? = some drag.coordinate := by
  obtain ⟨feature', polygon', vertex, coordinate⟩ := drag
  simp only [ofPolygon, List.mem_map, Prod.exists, List.mk_mem_zipIdx_iff_getElem?, VertexDrag.mk.injEq]
  constructor
  · rintro ⟨_, _, hthere, rfl, rfl, rfl, rfl⟩
    exact ⟨rfl, rfl, hthere⟩
  · rintro ⟨rfl, rfl, hthere⟩
    exact ⟨_, _, hthere, rfl, rfl, rfl, rfl⟩

/-- What the vertices of a shape are. -/
theorem mem_ofShape_iff :
    drag ∈ ofShape feature shape ↔
      drag.feature = feature ∧ ∃ p, shape.polygonAt? drag.polygon = some p ∧
        p.exterior[drag.vertex]? = some drag.coordinate := by
  simp only [ofShape, List.mem_flatMap, Prod.exists, List.mk_mem_zipIdx_iff_getElem?, mem_ofPolygon_iff,
    Shape.polygonAt?_eq]
  constructor
  · rintro ⟨p, _, hp, rfl, rfl, hthere⟩
    exact ⟨rfl, p, hp, hthere⟩
  · rintro ⟨rfl, p, hp, hthere⟩
    exact ⟨p, _, hp, rfl, rfl, hthere⟩

/-- The vertices of a layer are those that can be dragged on it. -/
theorem mem_ofLayer_iff : drag ∈ ofLayer layer ↔ drag.LiveOn layer := by
  simp only [ofLayer, List.mem_flatMap, Prod.exists, List.mk_mem_zipIdx_iff_getElem?, mem_ofShape_iff, LiveOn]
  constructor
  · rintro ⟨shape, _, hshape, rfl, p, hp, hthere⟩
    exact ⟨shape, p, hshape, hp, hthere⟩
  · rintro ⟨shape, p, hshape, hp, hthere⟩
    exact ⟨shape, _, hshape, rfl, p, hp, hthere⟩

/-- The vertices of a polygon come in the order of their places. -/
theorem pairwise_ofPolygon (feature polygon : ℕ) (p : Polygon α) :
    (ofPolygon feature polygon p).Pairwise (place · < place ·) := by
  refine List.pairwise_map.mpr ((pairwise_snd_zipIdx p.exterior).imp fun hlt => ?_)
  exact place_lt_iff.mpr (.inr ⟨rfl, .inr ⟨rfl, hlt⟩⟩)

/-- So do those of a shape. -/
theorem pairwise_ofShape (feature : ℕ) (shape : Shape α) :
    (ofShape feature shape).Pairwise (place · < place ·) := by
  refine List.pairwise_flatMap.mpr ⟨fun _ _ => pairwise_ofPolygon _ _ _, ?_⟩
  refine (pairwise_snd_zipIdx shape.polygons).imp fun hlt a ha b hb => ?_
  obtain ⟨hfeature, hpolygon, -⟩ := mem_ofPolygon_iff.mp ha
  obtain ⟨hfeature', hpolygon', -⟩ := mem_ofPolygon_iff.mp hb
  rw [place_lt_iff, hfeature, hfeature', hpolygon, hpolygon']
  exact .inr ⟨rfl, .inl hlt⟩

/-- And so do those of a layer. -/
theorem pairwise_ofLayer (layer : List (Shape α)) : (ofLayer layer).Pairwise (place · < place ·) := by
  refine List.pairwise_flatMap.mpr ⟨fun _ _ => pairwise_ofShape _ _, ?_⟩
  refine (pairwise_snd_zipIdx layer).imp fun hlt a ha b hb => ?_
  rw [place_lt_iff, (mem_ofShape_iff.mp ha).1, (mem_ofShape_iff.mp hb).1]
  exact .inl hlt

end VertexDrag

variable [Scalar α]

/-- Looking for a vertex is looking through a ring with the places of its points. -/
theorem Ring.findVertex?_eq_find? (pixel : Coord α) (tolerance : α) (v : Viewport α) (ring : Polyline α) :
    findVertex? pixel tolerance v ring =
      (ring.zipIdx.find? fun x => isHit pixel tolerance v x.1).map Prod.swap := by
  rw [findVertex?, List.findIdx?_eq_fst_find?_zipIdx]
  cases hfind : ring.zipIdx.find? (fun x => isHit pixel tolerance v x.1) with
  | none => rfl
  | some x =>
    have hthere : ring[x.2]? = some x.1 := List.mk_mem_zipIdx_iff_getElem?.mp (List.mem_of_find?_eq_some hfind)
    simp [hthere, Prod.swap]

namespace Editor

variable {e : Editor α} {pixel : Coord α} {drag : VertexDrag α}

/-- On both axes the pixel of a position, rounded, is within the tolerance of the rounded pixel that is asked for. -/
def IsNear (e : Editor α) (pixel c : Coord α) : Prop :=
  Scalar.abs (Scalar.round pixel.x - Scalar.round (e.viewport.pixelOf c).x) ≤ e.settings.vertexTolerance ∧
    Scalar.abs (Scalar.round pixel.y - Scalar.round (e.viewport.pixelOf c).y) ≤ e.settings.vertexTolerance

/-- A vertex of the layer is near the pixel, and no other one that is near has a place before it. -/
structure IsFirstNear (e : Editor α) (pixel : Coord α) (drag : VertexDrag α) : Prop where
  live : drag.LiveOn e.layer
  near : e.IsNear pixel drag.coordinate
  first : ∀ other : VertexDrag α, other.LiveOn e.layer → e.IsNear pixel other.coordinate → drag.place ≤ other.place

/-- On a closed ring of more points than one the vertex that is hit is not the last one. -/
def HitsNoEnd (e : Editor α) (pixel : Coord α) : Prop :=
  ∀ drag shape polygon, e.hitVertex? pixel = some drag → e.layer[drag.feature]? = some shape →
    shape.polygonAt? drag.polygon = some polygon → polygon.exterior.isClosed → 2 ≤ polygon.exterior.length →
    drag.vertex ≠ polygon.exterior.length - 1

/-- What is near is hit. -/
theorem isHit_iff_isNear {c : Coord α} :
    Ring.isHit pixel e.settings.vertexTolerance e.viewport c ↔ e.IsNear pixel c := by
  rw [Ring.isHit, Bool.and_eq_true, decide_eq_true_eq, decide_eq_true_eq, IsNear]

/-- The vertex of a shape that is hit is the first one in the list of all that it has. -/
theorem hitInShape?_eq_find? (e : Editor α) (pixel : Coord α) (feature : ℕ) (shape : Shape α) :
    e.hitInShape? pixel feature shape = (VertexDrag.ofShape feature shape).find? fun drag =>
      Ring.isHit pixel e.settings.vertexTolerance e.viewport drag.coordinate := by
  rw [hitInShape?, VertexDrag.ofShape, List.find?_flatMap]
  congr 1
  funext x
  dsimp only
  rw [Ring.findVertex?_eq_find?, Option.map_map, VertexDrag.ofPolygon, List.find?_map]
  rfl

/-- The vertex that is hit is the first one in the list of all that are there. -/
theorem hitVertex?_eq_find? (e : Editor α) (pixel : Coord α) :
    e.hitVertex? pixel = (VertexDrag.ofLayer e.layer).find? fun drag =>
      Ring.isHit pixel e.settings.vertexTolerance e.viewport drag.coordinate := by
  simp only [hitVertex?, hitInShape?_eq_find?, VertexDrag.ofLayer, List.find?_flatMap]

/-- The vertex that is hit is the first one near. -/
theorem hitVertex?_eq_some_iff : e.hitVertex? pixel = some drag ↔ e.IsFirstNear pixel drag := by
  rw [hitVertex?_eq_find?, find?_eq_some_iff_least (VertexDrag.pairwise_ofLayer e.layer)]
  simp only [VertexDrag.mem_ofLayer_iff, isHit_iff_isNear]
  exact ⟨fun ⟨live, near, first⟩ => ⟨live, near, first⟩, fun h => ⟨h.live, h.near, h.first⟩⟩

/-- None is hit when none is near. -/
theorem hitVertex?_eq_none_iff :
    e.hitVertex? pixel = none ↔
      ∀ drag : VertexDrag α, drag.LiveOn e.layer → ¬ e.IsNear pixel drag.coordinate := by
  rw [hitVertex?_eq_find?, List.find?_eq_none]
  simp only [VertexDrag.mem_ofLayer_iff, isHit_iff_isNear]

/-- Equal positions are near the same pixels. -/
theorem isNear_congr [RoundingCongr α] {c d : Coord α} (equal : c == d) : e.IsNear pixel c ↔ e.IsNear pixel d := by
  have hdistance (z t : α) {x y : α} (h : Alike x y) :
      Scalar.abs (z - Scalar.round x) ≤ t ↔ Scalar.abs (z - Scalar.round y) ≤ t :=
    NumericCongr.le_congr t (NumericCongr.abs_congr (NumericCongr.sub_congr_right z (RoundingCongr.round_congr h)))
  have hpixel (r t : α) {x y : α} (h : Alike x y) : Alike (x / r + t) (y / r + t) :=
    NumericCongr.add_congr t (NumericCongr.div_congr r h)
  obtain ⟨hx, hy⟩ := Coord.beq_iff.mp equal
  refine and_congr (hdistance _ _ (hpixel _ _ ?_)) (hdistance _ _ (hpixel _ _ ?_))
  · exact NumericCongr.sub_congr _ (.inr hx)
  · exact NumericCongr.sub_congr_right _ (.inr hy)

/-- Where equal positions are near the same pixels, the end of a closed ring is never hit. -/
theorem hitsNoEnd [RoundingCongr α] (e : Editor α) (pixel : Coord α) : e.HitsNoEnd pixel := by
  intro drag shape polygon hit there part closed several hlast
  have hfirst := hitVertex?_eq_some_iff.mp hit
  obtain ⟨shape', polygon', hshape, hpolygon, hvertex⟩ := hfirst.live
  cases there.symm.trans hshape
  cases part.symm.trans hpolygon
  rw [hlast] at hvertex
  rw [Polyline.isClosed, List.head?_eq_getElem?, List.getLast?_eq_getElem?, hvertex] at closed
  obtain ⟨start, hstart⟩ : ∃ start, polygon.exterior[0]? = some start :=
    ⟨_, List.getElem?_eq_getElem (by omega)⟩
  rw [hstart] at closed
  -- The first point has a place before the last one, and is near as well.
  have hequal : start == drag.coordinate := closed
  have hle := hfirst.first ⟨drag.feature, drag.polygon, 0, start⟩ ⟨shape, polygon, there, part, hstart⟩
    ((isNear_congr hequal).mpr hfirst.near)
  refine not_lt.mpr hle (VertexDrag.place_lt_iff.mpr (.inr ⟨rfl, .inr ⟨rfl, ?_⟩⟩))
  dsimp only
  omega

/-- Pressing the pointer picks a vertex when no tool is in use and one is near, and changes nothing but the drag. -/
theorem pointerDown_eq_true_iff {e' : Editor α} :
    e.pointerDown pixel = (e', true) ↔
      e.draw.mode = .normal ∧
        ∃ drag, e.IsFirstNear pixel drag ∧ e' = { e with draw := { e.draw with drag := some drag } } := by
  simp only [← hitVertex?_eq_some_iff]
  constructor
  · intro hpicked
    have hends := e.pointerDown_ends pixel
    rw [hpicked] at hends
    cases hends with
    | picked normal hit => exact ⟨normal, _, hit, rfl⟩
  · rintro ⟨hnormal, drag, hhit, rfl⟩
    simp [pointerDown, DrawController.beginDrag, DrawMode.allowsVertexEditing, hnormal, hhit]

/-- Of the vertices near a pixel the one is hit that has the first place: of the shapes, then of its polygons, then of
the points of the exterior. None is hit only when none is near. Where rounding does not tell equal values apart, as with
doubles that are rounded to the nearest whole number, it is never the end of a closed ring. Pressing the pointer with no
tool in use picks the vertex that is hit. -/
theorem picks_first (e : Editor α) (pixel : Coord α) :
    (∀ drag, e.hitVertex? pixel = some drag ↔ e.IsFirstNear pixel drag) ∧
      (e.hitVertex? pixel = none ↔
        ∀ drag : VertexDrag α, drag.LiveOn e.layer → ¬ e.IsNear pixel drag.coordinate) ∧
      (RoundingCongr α → e.HitsNoEnd pixel) ∧
      (∀ p : Platform, p.RoundsToWhole → ∀ (e : Editor p.Number) (pixel : Coord p.Number), e.HitsNoEnd pixel) ∧
      ∀ e', e.pointerDown pixel = (e', true) ↔
        e.draw.mode = .normal ∧
          ∃ drag, e.IsFirstNear pixel drag ∧ e' = { e with draw := { e.draw with drag := some drag } } := by
  refine ⟨fun drag => hitVertex?_eq_some_iff, hitVertex?_eq_none_iff, ?_, ?_, fun e' => pointerDown_eq_true_iff⟩
  · intro _
    exact hitsNoEnd e pixel
  · intro p hp e pixel
    have := hp.roundingCongr
    exact hitsNoEnd e pixel

/-- Two triangles that start in one corner are imported next to a point. -/
def trianglesMeeting : Editor Rat :=
  FlatWorld.start.run [.importFeatures (.ofFeatures [.ofGeometry (.point [40, 40]), .ofGeometry (.multiPolygon
    [[[[0, 0], [-20, -20], [-20, 0], [0, 0]]], [[[0, 0], [20, 20], [0, 20], [0, 0]]]])]) "triangles"]

/-- A triangle on doubles whose ring is closed by the other zero. -/
def zeroEnds : Editor Platform.computed.Number where
  settings := .default
  viewport := ⟨⟨0.0, 0.0⟩, 1.0, 800.0, 600.0, 256.0, 2, 22, .world⟩
  session := .new Platform.computed.planarOps
  draw := .new
  layer := [.polygon ⟨[⟨0.0, 0.0⟩, ⟨100.0, 0.0⟩, ⟨0.0, 100.0⟩, ⟨-0.0, 0.0⟩], []⟩]
  marker := none
  preview := none
  pendingBuffer := 0.0
  nextEnabled := false

/-- Four vertices are near the corner. The first one of the first triangle is picked, and not the last one. Of the two
zeros it is the first one too. -/
theorem picks_first_meeting :
    trianglesMeeting.IsFirstNear (trianglesMeeting.viewport.pixelOf ⟨0, 0⟩) ⟨1, 0, 0, ⟨0, 0⟩⟩ ∧
      (∃ shape polygon, trianglesMeeting.layer[1]? = some shape ∧ shape.polygonAt? 0 = some polygon ∧
        0 ≠ polygon.exterior.length - 1) ∧
      (∃ e', trianglesMeeting.pointerDown (trianglesMeeting.viewport.pixelOf ⟨0, 0⟩) = (e', true) ∧
        e'.draw.drag = some ⟨1, 0, 0, ⟨0, 0⟩⟩) ∧
      Platform.computed.RoundsToWhole ∧ zeroEnds.HitsNoEnd ⟨400.0, 300.0⟩ ∧
      (zeroEnds.hitVertex? ⟨400.0, 300.0⟩).map (·.vertex) = some 0 := by
  obtain ⟨hfirst, -, hends, hdoubles, hpress⟩ :=
    picks_first trianglesMeeting (trianglesMeeting.viewport.pixelOf ⟨0, 0⟩)
  have hhit : trianglesMeeting.hitVertex? (trianglesMeeting.viewport.pixelOf ⟨0, 0⟩) = some ⟨1, 0, 0, ⟨0, 0⟩⟩ := by
    decide +kernel
  have hnear := (hfirst _).mp hhit
  obtain ⟨shape, polygon, hshape, hpolygon, -⟩ := hnear.live
  have hrings : trianglesMeeting.layer.all fun shape => shape.polygons.all fun p =>
      p.exterior.isClosed && decide (2 ≤ p.exterior.length) := by decide +kernel
  have hring := List.all_eq_true.mp (List.all_eq_true.mp hrings shape (List.mem_of_getElem? hshape)) polygon
    (List.mem_of_getElem? (shape.polygonAt?_eq 0 ▸ hpolygon))
  rw [Bool.and_eq_true, decide_eq_true_eq] at hring
  refine ⟨hnear, ⟨shape, polygon, hshape, hpolygon, ?_⟩, ⟨_, (hpress _).mpr ⟨?_, _, hnear, rfl⟩, rfl⟩,
    Platform.roundsToWhole_computed, hdoubles _ Platform.roundsToWhole_computed zeroEnds _, by decide +kernel⟩
  · exact hends inferInstance _ shape polygon hhit hshape hpolygon hring.1 hring.2
  · decide +kernel

end Editor

end AreaOfInterest
