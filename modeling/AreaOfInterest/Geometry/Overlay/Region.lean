import AreaOfInterest.Geometry.Overlay.Arrangement

/-!
# Regions bounded by edges

A rule on winding numbers says which part of the plane is inside. The edges between inside and outside,
directed so that the inside is on the left, are joined into closed walks. At a point where several walks meet, a walk
around an exterior keeps to the same wedge of the inside and one around a hole to the same wedge of the outside,
so parts that touch at a point stay apart, and so do holes. A hole that touches its exterior is walked along with it;
cutting the walk where it comes back to a point takes it off again.
-/

namespace AreaOfInterest.Lattice

/-- Winding numbers just to the right of a segment of an arrangement, found by looking straight down. -/
def windingRight (layers : Nat) (edges : List Edge) (s : Segment) : Winding :=
  let middle : Point := ⟨s.start.x + s.finish.x, s.start.y + s.finish.y⟩
  edges.foldl (fun total e =>
    let start : Point := ⟨2 * e.segment.start.x, 2 * e.segment.start.y⟩
    let finish : Point := ⟨2 * e.segment.finish.x, 2 * e.segment.finish.y⟩
    if start.x ≤ middle.x && middle.x < finish.x && turn start finish middle > 0 then total.add e.gain else total)
    (List.replicate layers 0)

/-- The edges where a rule changes, directed with the inside on the left. -/
def boundary (layers : Nat) (inside : Winding → Bool) (edges : List Edge) : List Segment :=
  edges.filterMap fun e =>
    let right := windingRight layers edges e.segment
    match inside right, inside (right.add e.gain) with
    | false, true => some e.segment
    | true, false => some e.segment.reverse
    | _, _ => none

/-- Whether a clockwise turn away from the way back along `s` meets `t` before `u`. All three share the point
where `s` ends. -/
def meetsFirst (s t u : Segment) : Bool :=
  let late (v : Segment) : Bool :=
    let side := turn s.finish s.start v.finish
    side > 0 || (side == 0 && 0 < (v.finish.x - s.finish.x) * (s.start.x - s.finish.x) + (v.finish.y - s.finish.y) * (s.start.y - s.finish.y))
  if late t == late u then turn s.finish t.finish u.finish < 0 else late u

/-- The segment with which the walk goes on after `s`: the first in a clockwise turn away from the way back around an
exterior, the last around a hole. -/
def next? (aroundHole : Bool) (s : Segment) : List Segment → Option Segment
  | [] => none
  | t :: rest =>
    if t.start = s.finish then
      match next? aroundHole s rest with
      | none => some t
      | some u => some (if meetsFirst s t u != aroundHole then t else u)
    else next? aroundHole s rest

theorem next?_mem {aroundHole : Bool} {s t : Segment} {rest : List Segment} (h : next? aroundHole s rest = some t) :
    t ∈ rest := by
  induction rest generalizing t with
  | nil => simp [next?] at h
  | cons u rest ih =>
    unfold next? at h
    split at h
    · split at h
      · simp_all
      · rename_i v hv
        have := ih hv
        split at h <;> simp_all
    · exact List.mem_cons_of_mem _ (ih h)

/-- Walks on after `s` until the walk is back at `origin`: the points on the way and the segments left over. -/
def walk (aroundHole : Bool) (origin : Point) (s : Segment) (rest : List Segment) : List Point × List Segment :=
  if s.finish = origin then ([], rest)
  else
    match _ : next? aroundHole s rest with
    | none => ([], rest)
    | some t =>
      let onward := walk aroundHole origin t (rest.erase t)
      (t.start :: onward.1, onward.2)
termination_by rest.length
decreasing_by
  have mem := next?_mem ‹_›
  have := List.length_erase_of_mem mem
  have := List.length_pos_of_mem mem
  omega

theorem walk_length_le (aroundHole : Bool) (origin : Point) (s : Segment) (rest : List Segment) :
    (walk aroundHole origin s rest).2.length ≤ rest.length := by
  fun_induction walk aroundHole origin s rest with
  | case1 => simp
  | case2 => simp
  | case3 s rest _ t _ onward ih => exact Nat.le_trans ih List.length_erase_le

/-- The highest of the segments that have the same left end as the first one. -/
def highest (s : Segment) : List Segment → Segment
  | [] => s
  | t :: rest =>
    let h := highest s rest
    if t.forward.start = h.forward.start && turn h.forward.start h.forward.finish t.forward.finish > 0 then t else h

theorem highest_mem (s : Segment) (rest : List Segment) : highest s rest ∈ s :: rest := by
  induction rest with
  | nil => simp [highest]
  | cons t rest ih =>
    simp only [highest]
    split
    · simp
    · rcases List.mem_cons.1 ih with h | h <;> simp [h]

/-- The closed walks along some segments in order, each as the list of its points. A walk starts with the highest
segment at the leftmost point that is left; when that runs to the right, the walk goes around a hole. -/
def walks : List Segment → List (List Point)
  | [] => []
  | s :: rest =>
    let start := highest s rest
    let onward := walk (start == start.forward) start.start start ((s :: rest).erase start)
    (start.start :: onward.1) :: walks onward.2
termination_by ss => ss.length
decreasing_by
  have shorter := List.length_erase_of_mem (highest_mem s rest)
  refine Nat.lt_of_le_of_lt (walk_length_le ..) ?_
  rw [shorter, List.length_cons]
  omega

/-- Splits a closed walk into loops that pass no point twice. `path` is the open part, latest point first. -/
def loops (path : List Point) : List Point → List (List Point)
  | [] => [path.reverse]
  | p :: rest =>
    if p ∈ path then
      (p :: (path.takeWhile (· ≠ p)).reverse) :: loops (path.dropWhile (· ≠ p)) rest
    else loops (p :: path) rest

/-- Twice the signed area of a loop. -/
def doubleArea (loop : List Point) : Int :=
  (segments (closed loop)).foldl (fun total s => total + (s.start.x * s.finish.y - s.start.y * s.finish.x)) 0

/-- Whether a hole lies within an exterior. -/
def encloses (exterior hole : List Point) : Bool :=
  match hole with
  | a :: b :: _ => locate ⟨a.x + b.x, a.y + b.y, 2⟩ (segments (closed exterior)) == .inside
  | _ => false

/-- The smallest of the exteriors around a hole. -/
def owner? (exteriors : List (List Point)) (hole : List Point) : Option (List Point) :=
  (exteriors.filter (encloses · hole)).foldl
    (fun best e =>
      match best with
      | none => some e
      | some b => if doubleArea e < doubleArea b then some e else some b)
    none

/-- A part of a region: the loop around it and the loops of its holes. -/
structure Part where
  exterior : List Point
  holes : List (List Point)

/-- The parts of a region bounded by loops. -/
def partsOf (ls : List (List Point)) : List Part :=
  let exteriors := ls.filter (0 < doubleArea ·)
  let holes := (ls.filter (doubleArea · < 0)).map fun hole => (owner? exteriors hole, hole)
  exteriors.map fun e => ⟨corners (closed e), (holes.filter (·.1 == some e)).map (fun h => corners (closed h.2))⟩

/-- Whether a closed walk runs along a firm edge. -/
def isFirm (edges : List Edge) (walk : List Point) : Bool :=
  (segments (closed walk)).any fun s => edges.any fun e => e.firm && e.segment = s.forward

/-- The region where a rule on the winding numbers of several layers of rings holds. -/
def overlay (layers : List (List Ring)) (inside : Winding → Bool) : List Part :=
  partsOf ((walks (boundary layers.length inside (arrange (edgesOf layers)))).flatMap (loops []))

end AreaOfInterest.Lattice
