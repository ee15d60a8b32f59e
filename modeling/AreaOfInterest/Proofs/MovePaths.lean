import AreaOfInterest.Proofs.Outcomes
import AreaOfInterest.Proofs.RingMoves

/-!
# Drags and their paths

A drag is a sequence of moves, each of which starts from the ring and the vertex that the last accepted one left. Where
it leads to should depend on where the pointer is, and not on how it came there. With exact scalars that is so but for
two cases. In one the pointer has made the ring a box within the tolerance for corners, from which no move leads away.
In the other it has made a box of a ring that was none, so that the neighbours of the vertex are taken along from there
on.

At any time the ring is either the one that was picked with its vertex replaced, and no box, or a box between the
vertex and a fixed opposite corner. Which of them it is, and the box that was first made, is all that a path leaves.
-/

namespace AreaOfInterest

open Exact

variable {α : Type} [Scalar α]

namespace Ring

/-- A ring in the pointer's grip. -/
structure Held (α : Type) where
  ring : Polyline α
  drag : VertexDrag α

namespace Held

/-- The ring after the pointer moved to the target; none when the move is refused. -/
def move? (h : Held α) (target : Coord α) : Option (Polyline α) := drag? h.ring h.drag target

/-- What is held after the pointer moved: the ring and its vertex are changed together, or not at all. -/
def move (h : Held α) (target : Coord α) : Held α :=
  match h.move? target with
  | some ring => ⟨ring, { h.drag with coordinate := target }⟩
  | none => h

/-- What is held after the pointer moved to several targets. -/
def follow (h : Held α) (targets : List (Coord α)) : Held α := targets.foldl move h

/-- A closed ring is held by a vertex that is where it is said to be. -/
structure IsSound (h : Held α) : Prop where
  closed : Polyline.isClosed h.ring
  there : h.ring[h.drag.vertex]? = some h.drag.coordinate

/-- A move that is accepted at once is accepted after other moves as well, and gives the same ring. -/
def Forgets (h : Held α) (earlier : List (Coord α)) (target : Coord α) : Prop :=
  ∀ direct, h.move? target = some direct → (h.follow earlier).move? target = some direct

/-- What the moves of the pointer make of a ring: its vertex is replaced, and it is no box; or a box was made of it at
`b`, unless it was one, and its corner was carried on from there. -/
inductive Traced (h : Held α) : Held α → Prop where
  | free {c : Coord α} (free : ¬ isBox h.ring) (stays : ¬ isBox (moveVertex h.ring h.drag.vertex c)) :
      Traced h ⟨moveVertex h.ring h.drag.vertex c, { h.drag with coordinate := c }⟩
  | boxed {b c o : Coord α} (entered : IsBoxBetween (moveVertex h.ring h.drag.vertex b) b o)
      (began : isBox h.ring → b = h.drag.coordinate) (apart : c.Apart o) :
      Traced h ⟨(moveVertex h.ring h.drag.vertex b).map (carry b c), { h.drag with coordinate := c }⟩

end Held

/-- A box is no wider, or no taller, than the tolerance for corners. -/
def IsNarrow (ring : Polyline α) : Prop :=
  ∃ e, Extent.ofCoords? ring = some e ∧ ¬ (cornerEpsilon < e.width ∧ cornerEpsilon < e.height)

section MoveVertex

variable [LawfulBEq α] {ring : Polyline α} {i j : Nat}

/-- The two ends of a closed ring are one point. -/
theorem getElem?_of_sameVertex (h : SameVertex ring i j) : ring[j]? = ring[i]? := by
  obtain rfl | ⟨hclosed, hi, hj⟩ := h
  · rfl
  · have hends := isClosed_iff_getElem?.mp hclosed
    obtain rfl | rfl := hi <;> obtain rfl | rfl := hj <;> simp only [hends]

/-- A vertex that is replaced by itself stays. -/
theorem moveVertex_self {c : Coord α} (there : ring[i]? = some c) : moveVertex ring i c = ring := by
  have hlt : i < ring.length := (List.getElem?_eq_some_iff.mp there).1
  refine List.ext_getElem? fun j => ?_
  by_cases hsame : SameVertex ring i j
  · rw [(getElem?_moveVertex_eq hlt c j).1 hsame, getElem?_of_sameVertex hsame, there]
  · rw [(getElem?_moveVertex_eq hlt c j).2 hsame]

/-- Of a vertex that is replaced twice nothing but the second place is left. -/
theorem moveVertex_moveVertex (closed : Polyline.isClosed ring) (hlt : i < ring.length) (b c : Coord α) :
    moveVertex (moveVertex ring i b) i c = moveVertex ring i c := by
  have hreplaced := isReplaced_moveVertex hlt b
  have hlt' : i < (moveVertex ring i b).length := by rwa [length_moveVertex]
  refine List.ext_getElem? fun j => ?_
  have hiff : SameVertex (moveVertex ring i b) i j ↔ SameVertex ring i j := by
    simp only [SameVertex, hreplaced.closed closed, closed, length_moveVertex]
  by_cases hsame : SameVertex ring i j
  · rw [(getElem?_moveVertex_eq hlt' c j).1 (hiff.mpr hsame), (getElem?_moveVertex_eq hlt c j).1 hsame]
  · rw [(getElem?_moveVertex_eq hlt' c j).2 (mt hiff.mp hsame), (getElem?_moveVertex_eq hlt c j).2 hsame,
      (getElem?_moveVertex_eq hlt b j).2 hsame]

end MoveVertex

/-- Of three values, two of which are the same and not the third, that one is known from their list in any order. -/
theorem eq_of_perm_pair {β : Type} {b o t p : β} (h : [b, o, o].Perm [t, p, p]) (hb : b ≠ o) : t = b := by
  have hp : p ∈ [b, o, o] := h.mem_iff.mpr (by simp)
  simp only [List.mem_cons, List.not_mem_nil, or_false, or_self] at hp
  obtain rfl | rfl := hp
  · have hrest : [o, o].Perm [t, p] := (h.trans (List.Perm.swap _ _ _)).cons_inv
    have ho : p ∈ [o, o] := hrest.mem_iff.mpr (by simp)
    simp only [List.mem_cons, List.not_mem_nil, or_false, or_self] at ho
    exact absurd ho hb
  · have hsingle : [b].Perm [t] := (List.perm_append_right_iff [p, p]).mp h
    exact (List.singleton_perm_singleton.mp hsingle).symm

variable [Exact α] {ring moved : Polyline α} {b c o o' target : Coord α} {i : Nat}

omit [Exact α] in
/-- Of the first four points of a closed ring of five, one is replaced with the vertex. -/
theorem take_moveVertex (closed : Polyline.isClosed ring) (length : ring.length = 5) (target : Coord α) :
    (moveVertex ring i target).take 4 = (ring.take 4).set (if i = 4 then 0 else i) target := by
  simp only [moveVertex, length, closed, Bool.true_and, Bool.or_eq_true, beq_iff_eq]
  split
  · next hend =>
    have hfirst : (if i = 4 then 0 else i) = 0 := by
      split
      · rfl
      · next hi => exact hend.resolve_right hi
    rw [hfirst, List.take_set, List.set_eq_of_length_le (by simp), List.take_set]
  · next hinner => rw [if_neg (not_or.mp hinner).2, List.take_set]

/-- The other corners of a box stay when one of them is replaced. -/
theorem IsBoxBetween.exists_rest (h : IsBoxBetween ring b o) (there : ring[i]? = some b) :
    ∃ rest, rest.Perm [⟨b.x, o.y⟩, o, ⟨o.x, b.y⟩] ∧
      ∀ target, ((moveVertex ring i target).take 4).Perm (target :: rest) := by
  have := Exact.lawfulBEq α
  let j := if i = 4 then 0 else i
  have hsame : SameVertex ring i j := by
    simp only [j]
    split
    · next hi => exact .inr ⟨h.closed, .inr (by rw [h.length, hi]), .inl rfl⟩
    · exact .inl rfl
  have hj : j < (ring.take 4).length := by
    have hlt : i < ring.length := (List.getElem?_eq_some_iff.mp there).1
    rw [h.length] at hlt
    rw [List.length_take, h.length]
    simp only [j]
    split <;> omega
  have hcorner : (ring.take 4)[j] = b := by
    rw [List.getElem_take]
    exact (List.getElem?_eq_some_iff.mp ((getElem?_of_sameVertex hsame).trans there)).2
  refine ⟨(ring.take 4).eraseIdx j, ?_, fun target => ?_⟩
  · have hperm := (List.getElem_cons_eraseIdx_perm hj).trans h.corners
    rw [hcorner] at hperm
    exact hperm.cons_inv
  · rw [take_moveVertex h.closed h.length]
    exact List.set_perm_cons_eraseIdx hj target

/-- A box with some area that is left by one corner alone is none. -/
theorem IsBoxBetween.eq_of_moveVertex (h : IsBoxBetween ring b o) (there : ring[i]? = some b)
    (h' : IsBoxBetween (moveVertex ring i target) target o') : target = b := by
  obtain ⟨rest, hrest, hmoved⟩ := h.exists_rest there
  have hrest' : rest.Perm [⟨target.x, o'.y⟩, o', ⟨o'.x, target.y⟩] := ((hmoved target).symm.trans h'.corners).cons_inv
  have hperm := hrest.symm.trans hrest'
  have hx : [b.x, o.x, o.x].Perm [target.x, o'.x, o'.x] := hperm.map Coord.x
  have hy : [o.y, o.y, b.y].Perm [o'.y, o'.y, target.y] := hperm.map Coord.y
  have hy' : [b.y, o.y, o.y].Perm [target.y, o'.y, o'.y] :=
    ((List.reverse_perm _).trans hy).trans (List.reverse_perm _).symm
  have hbx := eq_of_perm_pair hx h.apart.1
  have hby := eq_of_perm_pair hy' h.apart.2
  obtain ⟨x, y⟩ := target
  cases hbx
  cases hby
  rfl

namespace Held

variable {h h' : Held α}

/-- A closed box with some area is held by a corner that lies opposite to another one. -/
theorem exists_boxed [NumericOrder α] (closed : Polyline.isClosed ring) (box : isBox ring) (there : ring[i]? = some c)
    (wide : ∃ e, Extent.ofCoords? ring = some e ∧ ¬ e.isDegenerate) : ∃ o, IsBoxBetween ring c o := by
  obtain ⟨e, he, hwide⟩ := wide
  exact exists_isBoxBetween box closed he hwide (List.mem_of_getElem? there)

variable [ExactDistance α]

/-- What is held soundly still is after a move. -/
theorem IsSound.move (sound : h.IsSound) (target : Coord α) : (h.move target).IsSound := by
  have := Exact.lawfulBEq α
  unfold Held.move
  cases hmoves : h.move? target with
  | none => exact sound
  | some moved =>
    by_cases hbox : isBox h.ring
    · obtain ⟨rfl, -⟩ := drag?_of_isBox hbox hmoves
      refine ⟨Polyline.isClosed_map sound.closed _, ?_⟩
      rw [List.getElem?_map, sound.there, Option.map_some, moveCorner, close_self_of_exact, close_self_of_exact]
      rfl
    · obtain ⟨rfl, -⟩ := (drag?_of_not_isBox hbox).mp hmoves
      have hlt : h.drag.vertex < h.ring.length := (List.getElem?_eq_some_iff.mp sound.there).1
      exact ⟨(isReplaced_moveVertex hlt target).closed sound.closed, (getElem?_moveVertex_eq hlt target _).1 (.inl rfl)⟩

variable [NumericOrder α]

/-- Before any move a ring is what it is, if some move is accepted. -/
theorem traced_self (sound : h.IsSound) {target : Coord α} (moves : h.move? target = some moved) : h.Traced h := by
  have := Exact.lawfulBEq α
  have hself : moveVertex h.ring h.drag.vertex h.drag.coordinate = h.ring := moveVertex_self sound.there
  by_cases hbox : isBox h.ring
  · obtain ⟨e, he, -⟩ := isBox_iff.mp hbox
    have hwide : ¬ e.isDegenerate := by
      by_contra hflat
      have hnarrow : ¬ (cornerEpsilon < e.width ∧ cornerEpsilon < e.height) := fun hwide =>
        not_isDegenerate_of_wide hwide.1 hwide.2 hflat
      have hrefused : h.move? target = none := drag?_of_narrow hbox he (List.mem_of_getElem? sound.there) hnarrow
      cases hrefused.symm.trans moves
    obtain ⟨o, hbetween⟩ := exists_boxed sound.closed hbox sound.there ⟨e, he, hwide⟩
    have htraced := Traced.boxed (h := h) (hself.symm ▸ hbetween) (fun _ => rfl) hbetween.apart
    rwa [hself, map_eq_self fun d _ => carry_target _ d] at htraced
  · have htraced := Traced.free (c := h.drag.coordinate) hbox (hself.symm ▸ hbox)
    rwa [hself] at htraced

/-- A move leaves a ring what the moves before it made of the ring. -/
theorem Traced.move (sound : h.IsSound) (traced : h.Traced h') (target : Coord α) : h.Traced (h'.move target) := by
  have := Exact.lawfulBEq α
  have hlt : h.drag.vertex < h.ring.length := (List.getElem?_eq_some_iff.mp sound.there).1
  unfold Held.move
  cases hmoves : h'.move? target with
  | none => exact traced
  | some moved =>
    cases traced with
    | @free c free stays =>
      obtain ⟨hmoved, hwide⟩ := (drag?_of_not_isBox stays).mp hmoves
      rw [moveVertex_moveVertex sound.closed hlt] at hmoved
      subst hmoved
      by_cases hbox : isBox (moveVertex h.ring h.drag.vertex target)
      · have hreplaced := isReplaced_moveVertex hlt target
        obtain ⟨o, hbetween⟩ := exists_boxed (hreplaced.closed sound.closed) hbox (hreplaced.replaced _ (.inl rfl)) hwide
        have htraced := Traced.boxed hbetween (fun hring => absurd hring free) hbetween.apart
        rwa [map_eq_self fun d _ => carry_target _ d] at htraced
      · exact .free free hbox
    | @boxed b c o entered began apart =>
      obtain ⟨⟨-, -, hapart⟩, rfl⟩ := (drag?_of_isBoxBetween (entered.carry apart) rfl).mp hmoves
      dsimp only
      rw [entered.map_carry_carry apart]
      exact .boxed entered began hapart

/-- Whatever the moves, the ring is what they can make of it. -/
theorem traced_follow (sound : h.IsSound) {target : Coord α} (moves : h.move? target = some moved)
    (targets : List (Coord α)) : h.Traced (h.follow targets) := by
  induction targets using List.reverseRecOn with
  | nil => exact traced_self sound moves
  | append_singleton targets target ih =>
    rw [follow, List.foldl_append]
    exact ih.move sound target

/-- A move at once that leads to a box carries a corner of the box that other moves made of the ring. -/
theorem direct_of_boxed (sound : h.IsSound) {direct : Polyline α} (moves : h.move? target = some direct)
    (box : isBox direct) (entered : IsBoxBetween (moveVertex h.ring h.drag.vertex b) b o)
    (began : isBox h.ring → b = h.drag.coordinate) :
    target.Apart o ∧ direct = (moveVertex h.ring h.drag.vertex b).map (carry b target) := by
  have := Exact.lawfulBEq α
  have hlt : h.drag.vertex < h.ring.length := (List.getElem?_eq_some_iff.mp sound.there).1
  by_cases hring : isBox h.ring
  · cases began hring
    rw [moveVertex_self sound.there] at entered ⊢
    obtain ⟨⟨-, -, hapart⟩, hdirect⟩ := (drag?_of_isBoxBetween entered rfl).mp moves
    exact ⟨hapart, hdirect⟩
  · obtain ⟨rfl, hwide⟩ := (drag?_of_not_isBox hring).mp moves
    have hreplaced := isReplaced_moveVertex hlt target
    obtain ⟨o', hbetween⟩ := exists_boxed (hreplaced.closed sound.closed) box (hreplaced.replaced _ (.inl rfl)) hwide
    rw [← moveVertex_moveVertex sound.closed hlt b] at hbetween
    have hthere := (isReplaced_moveVertex hlt b).replaced _ (.inl rfl)
    -- Both are boxes that differ in this vertex at most, so they do not differ.
    cases entered.eq_of_moveVertex hthere hbetween
    exact ⟨entered.apart, (map_eq_self fun d _ => carry_target _ d).symm⟩

/-- A move that is accepted at once is accepted after others, with the same result, exactly when these left no box, or
one that is wide enough and the move at once leads to a box as well. -/
theorem move?_follow_iff (sound : h.IsSound) {direct : Polyline α} (moves : h.move? target = some direct)
    (earlier : List (Coord α)) :
    (h.follow earlier).move? target = some direct ↔
      (isBox (h.follow earlier).ring → isBox direct ∧ ¬ IsNarrow (h.follow earlier).ring) := by
  have := Exact.lawfulBEq α
  have htraced := traced_follow sound moves earlier
  generalize h.follow earlier = h' at htraced ⊢
  cases htraced with
  | @free c free stays =>
    have hlt : h.drag.vertex < h.ring.length := (List.getElem?_eq_some_iff.mp sound.there).1
    refine iff_of_true ((drag?_of_not_isBox stays).mpr ?_) fun hbox => absurd hbox stays
    rw [moveVertex_moveVertex sound.closed hlt]
    exact (drag?_of_not_isBox free).mp moves
  | @boxed b c o entered began apart =>
    have hheld := entered.carry apart
    constructor
    · intro hmoved _
      obtain ⟨⟨-, -, hapart⟩, rfl⟩ := (drag?_of_isBoxBetween hheld rfl).mp hmoved
      refine ⟨(hheld.carry hapart).isBox, ?_⟩
      rintro ⟨e, he, hnarrow⟩
      cases (drag?_of_narrow hheld.isBox he hheld.corner_mem hnarrow).symm.trans hmoved
    · intro hlegal
      obtain ⟨hbox, hwide⟩ := hlegal hheld.isBox
      obtain ⟨wide, tall⟩ := not_not.mp fun hnarrow => hwide ⟨_, hheld.ofCoords?_eq, hnarrow⟩
      obtain ⟨hcloseX, hcloseY⟩ := hheld.close_iff hheld.ofCoords?_eq
      obtain ⟨hapart, hdirect⟩ := direct_of_boxed sound moves hbox entered began
      refine (drag?_of_isBoxBetween hheld rfl).mpr ⟨⟨fun hclose => hcloseX.mp hclose wide, fun hclose =>
        hcloseY.mp hclose tall, hapart⟩, ?_⟩
      rw [entered.map_carry_carry apart, hdirect]

end Held

end Ring

namespace Editor

/-- What is in the pointer's grip: the ring of which a vertex is dragged, and the drag. -/
def held? (e : Editor α) : Option (Ring.Held α) :=
  e.draw.drag.bind fun drag => e.layer[drag.feature]?.bind fun shape =>
    (shape.polygonAt? drag.polygon).map fun polygon => ⟨polygon.exterior, drag⟩

omit [Scalar α] in
/-- What is held is on the layer. -/
theorem held?_eq_some_iff {e : Editor α} {h : Ring.Held α} :
    e.held? = some h ↔ e.draw.drag = some h.drag ∧ ∃ shape polygon, e.layer[h.drag.feature]? = some shape ∧
      shape.polygonAt? h.drag.polygon = some polygon ∧ polygon.exterior = h.ring := by
  simp only [held?, Option.bind_eq_some_iff, Option.map_eq_some_iff]
  constructor
  · rintro ⟨drag, hdrag, shape, hshape, polygon, hpolygon, rfl⟩
    exact ⟨hdrag, shape, polygon, hshape, hpolygon, rfl⟩
  · rintro ⟨hdrag, shape, polygon, hshape, hpolygon, hring⟩
    exact ⟨h.drag, hdrag, shape, hshape, polygon, hpolygon, by rw [hring]⟩

/-- Moving the pointer with a vertex picked keeps the view. -/
theorem viewport_pointerDrag (e : Editor α) (pixel : Coord α) : (e.pointerDrag pixel).1.viewport = e.viewport := by
  have hend := e.pointerDrag_ends pixel
  generalize (e.pointerDrag pixel).1 = e', (e.pointerDrag pixel).2 = outcome at hend
  cases hend with
  | idle | rejected | moved => rfl

variable [Exact α] [ExactDistance α] {e : Editor α} {h : Ring.Held α}

/-- Moving the pointer moves what is held. -/
theorem held?_pointerDrag (held : e.held? = some h) (sound : h.IsSound) (pixel : Coord α) :
    (e.pointerDrag pixel).1.held? = some (h.move (e.viewport.coordAt pixel)) := by
  have hsound := sound.move (e.viewport.coordAt pixel)
  obtain ⟨hdrag, shape, polygon, hshape, hpolygon, hring⟩ := held?_eq_some_iff.mp held
  unfold Ring.Held.move at hsound ⊢
  cases hmoves : h.move? (e.viewport.coordAt pixel) with
  | none =>
    have hrefused : Ring.drag? polygon.exterior h.drag (e.viewport.coordAt pixel) = none := by rwa [hring]
    simpa [pointerDrag, hdrag, hshape, hpolygon, hrefused] using held
  | some moved =>
    rw [hmoves] at hsound
    have haccepted : Ring.drag? polygon.exterior h.drag (e.viewport.coordAt pixel) = some moved := by rwa [hring]
    have hlt : h.drag.feature < e.layer.length := (List.getElem?_eq_some_iff.mp hshape).1
    simp only [pointerDrag, hdrag, hshape, hpolygon, haccepted]
    refine held?_eq_some_iff.mpr ⟨rfl, _, _, List.getElem?_set_self hlt, Shape.polygonAt?_setPolygon hpolygon _, ?_⟩
    exact Polyline.close_of_isClosed hsound.closed

variable [Surface α]

/-- Several moves of the pointer move what is held to the places that it pointed at. -/
theorem held?_run (held : e.held? = some h) (sound : h.IsSound) (pixels : List (Coord α)) :
    (e.run (pixels.map .pointerDrag)).held? = some (h.follow (pixels.map e.viewport.coordAt)) := by
  induction pixels generalizing e h with
  | nil => exact held
  | cons pixel pixels ih =>
    have hrest := ih (held?_pointerDrag held sound pixel) (sound.move _)
    rwa [viewport_pointerDrag] at hrest

end Editor

namespace Ring.Held

variable [Exact α] [ExactDistance α] [NumericOrder α] [Surface α]

/-- Where a drag leads to is independent of its path, except where earlier moves left a box: then moving on goes as it
would have done at once if that leads to a box, too, and the one that was left is wider and taller than the tolerance.
What an editor holds goes the way of the pointer in this sense. -/
theorem forgets_path_iff {h : Held α} (sound : h.IsSound) :
    (∀ earlier target, h.Forgets earlier target ↔ ∀ direct, h.move? target = some direct →
      isBox (h.follow earlier).ring → isBox direct ∧ ¬ IsNarrow (h.follow earlier).ring) ∧
    ∀ (e : Editor α) (pixels : List (Coord α)), e.held? = some h →
      (e.run (pixels.map .pointerDrag)).held? = some (h.follow (pixels.map e.viewport.coordAt)) := by
  refine ⟨fun earlier target => forall_congr' fun direct => ?_, fun e pixels held => e.held?_run held sound pixels⟩
  exact ⟨fun hforgets hmoves => (move?_follow_iff sound hmoves earlier).mp (hforgets hmoves),
    fun hlegal hmoves => (move?_follow_iff sound hmoves earlier).mpr (hlegal hmoves)⟩

/-- The box of ten by ten is held by a corner. -/
def squareHeld : Held Rat := ⟨square, squareCorner⟩

/-- The other ring is held by the corner that is out of place. -/
def kiteHeld : Held Rat := ⟨kite, kiteCorner⟩

/-- On the way over a wide box and over one that would have no area, the corner of the box comes to where it would
have come at once. -/
theorem forgets_path_square : squareHeld.IsSound ∧ squareHeld.Forgets [⟨30, 5⟩, ⟨0, 20⟩] ⟨20, 20⟩ := by
  have hsound : squareHeld.IsSound := ⟨by decide +kernel, by decide +kernel⟩
  have hbox : isBox [⟨0, 0⟩, ⟨0, 20⟩, ⟨20, 20⟩, ⟨20, 0⟩, (⟨0, 0⟩ : Coord Rat)] := by decide +kernel
  refine ⟨hsound, ((forgets_path_iff hsound).1 _ _).mpr fun direct hdirect _ => ?_⟩
  have hmoves : squareHeld.move? ⟨20, 20⟩ = some [⟨0, 0⟩, ⟨0, 20⟩, ⟨20, 20⟩, ⟨20, 0⟩, ⟨0, 0⟩] := by decide +kernel
  cases hmoves.symm.trans hdirect
  refine ⟨hbox, ?_⟩
  rintro ⟨e, he, hnarrow⟩
  have hhull : Extent.ofCoords? (squareHeld.follow [⟨30, 5⟩, ⟨0, 20⟩]).ring = some ⟨0, 0, 30, 5⟩ := by decide +kernel
  cases hhull.symm.trans he
  exact hnarrow (by decide +kernel)

/-- From a box within the tolerance no move leads away. And once the other ring has become a box, neighbours of the
vertex are taken along. -/
theorem not_forgets_path :
    (squareHeld.IsSound ∧ ¬ squareHeld.Forgets [⟨0.0000005, 10⟩] ⟨20, 20⟩) ∧
      kiteHeld.IsSound ∧ ¬ kiteHeld.Forgets [⟨10, 10⟩] ⟨12, 9⟩ := by
  refine ⟨⟨⟨by decide +kernel, by decide +kernel⟩, fun hforgets => ?_⟩,
    ⟨by decide +kernel, by decide +kernel⟩, fun hforgets => ?_⟩
  · have hdirect : squareHeld.move? ⟨20, 20⟩ = some [⟨0, 0⟩, ⟨0, 20⟩, ⟨20, 20⟩, ⟨20, 0⟩, ⟨0, 0⟩] := by decide +kernel
    have hstuck : (squareHeld.follow [⟨0.0000005, 10⟩]).move? ⟨20, 20⟩ = none := by decide +kernel
    cases hstuck.symm.trans (hforgets _ hdirect)
  · have hdirect : kiteHeld.move? ⟨12, 9⟩ = some [⟨0, 0⟩, ⟨0, 10⟩, ⟨12, 9⟩, ⟨10, 0⟩, ⟨0, 0⟩] := by decide +kernel
    have hboxed : (kiteHeld.follow [⟨10, 10⟩]).move? ⟨12, 9⟩ = some [⟨0, 0⟩, ⟨0, 9⟩, ⟨12, 9⟩, ⟨12, 0⟩, ⟨0, 0⟩] := by
      decide +kernel
    have hsame := hboxed.symm.trans (hforgets _ hdirect)
    exact absurd hsame (by decide +kernel)

end Ring.Held

end AreaOfInterest
