import AreaOfInterest.Geometry.Lattice

/-!
# Arrangements of segments

Segments that cross are cut into edges which meet at their ends only. A crossing moves to a lattice point, or to an
end of one of the two segments if that is near, which bends the pieces a little; the cutting is repeated until
nothing crosses, and from round to round the ends attract crossings from further away. Each edge knows, for every
layer of rings, how much the winding number grows from its right side to its left one.
-/

namespace AreaOfInterest.Lattice

/-- The square of the distance of two points. -/
def squaredDistance (p q : Point) : Int := (p.x - q.x) * (p.x - q.x) + (p.y - q.y) * (p.y - q.y)

/-- The segment in the other direction. -/
def Segment.reverse (s : Segment) : Segment := ⟨s.finish, s.start⟩

/-- The segment directed from left to right, and upwards if it is vertical. -/
def Segment.forward (s : Segment) : Segment := if s.start.atMost s.finish then s else s.reverse

/-- The end of a segment that is nearer to a point; the finish if both are as near. -/
def Segment.nearerEnd (s : Segment) (p : Point) : Point :=
  if squaredDistance s.start p < squaredDistance s.finish p then s.start else s.finish

/-- Whether a point of the line through a segment lies inside it and is none of its ends. -/
def Segment.hasInside (s : Segment) (p : Point) : Bool := between s p && p != s.start && p != s.finish

/-- The lattice point for the place where two segments that are not parallel cross. Both coordinates are rounded towards
the start of the first segment. -/
def crossing (s t : Segment) : Point :=
  let dx := s.finish.x - s.start.x
  let dy := s.finish.y - s.start.y
  let ex := t.finish.x - t.start.x
  let ey := t.finish.y - t.start.y
  let across := (t.start.x - s.start.x) * ey - (t.start.y - s.start.y) * ex
  let scale := dx * ey - dy * ex
  ⟨s.start.x + (across * dx).tdiv scale, s.start.y + (across * dy).tdiv scale⟩

/-- Where two segments are cut by each other. -/
structure Cuts where
  /-- The places on the first segment. -/
  first : List Point
  /-- The places on the second segment. -/
  second : List Point
  /-- Whether a place is off the segments, so that the pieces may cross others. -/
  rounded : Bool

/-- The cuts of two segments. Ends that lie on the other segment cut it exactly. A crossing elsewhere cuts both at
its lattice point, or one of them at an end of the other whose squared distance from there is at most `reach`. -/
def cuts (reach : Int) (s t : Segment) : Cuts :=
  let a := turn s.start s.finish t.start
  let b := turn s.start s.finish t.finish
  let c := turn t.start t.finish s.start
  let d := turn t.start t.finish s.finish
  if a == 0 || b == 0 || c == 0 || d == 0 then
    ⟨(if a == 0 && s.hasInside t.start then [t.start] else []) ++ (if b == 0 && s.hasInside t.finish then [t.finish] else []),
      (if c == 0 && t.hasInside s.start then [s.start] else []) ++ (if d == 0 && t.hasInside s.finish then [s.finish] else []),
      false⟩
  else if (a > 0) == (b > 0) || (c > 0) == (d > 0) then ⟨[], [], false⟩
  else
    let p := crossing s t
    if turn s.start s.finish p == 0 && turn t.start t.finish p == 0 then ⟨[p], [p], false⟩
    else
      let endOfS := s.nearerEnd p
      let endOfT := t.nearerEnd p
      let toS := squaredDistance endOfS p
      let toT := squaredDistance endOfT p
      if min toS toT > reach then ⟨[p], [p], true⟩
      else if toS ≤ toT then ⟨[], [endOfS], true⟩
      else ⟨[endOfT], [], true⟩

/-- Winding numbers, one for each layer. -/
abbrev Winding := List Int

/-- Layerwise sum. -/
def Winding.add (v w : Winding) : Winding := v.zipWith (· + ·) w

/-- A forward segment and the growth of the winding numbers from its right to its left. -/
structure Edge where
  segment : Segment
  gain : Winding
  /-- Whether the edge belongs to a drawn line and not only to links between lines. -/
  firm : Bool

/-- The edge of a directed segment in one layer of several: the winding number is one more on its left. -/
def Edge.ofSegment (layers layer : Nat) (firm : Bool) (s : Segment) : Edge :=
  let unit : Int := if s.start.atMost s.finish then 1 else -1
  ⟨s.forward, (List.range layers).map fun k => if k = layer then unit else 0, firm⟩

/-- The pieces of an edge that is led through some points, from its start to its finish. -/
def Edge.through (e : Edge) (points : List Point) : List Edge :=
  let way := points.mergeSort fun p q => squaredDistance e.segment.start p ≤ squaredDistance e.segment.start q
  (segments (e.segment.start :: way ++ [e.segment.finish])).filterMap fun s =>
    if s.start = s.finish then none
    else if s.start.atMost s.finish then some ⟨s, e.gain, e.firm⟩
    else some ⟨s.reverse, e.gain.map (- ·), e.firm⟩

/-- Order of edges by their ends. -/
def Edge.atMost (e f : Edge) : Bool :=
  if e.segment.start = f.segment.start then e.segment.finish.atMost f.segment.finish
  else e.segment.start.atMost f.segment.start

/-- Joins neighbouring edges that lie on each other, adding what they gain. -/
def joinEqual : List Edge → List Edge
  | [] => []
  | e :: rest =>
    match joinEqual rest with
    | [] => [e]
    | f :: joined =>
      if e.segment = f.segment then ⟨e.segment, e.gain.add f.gain, e.firm || f.firm⟩ :: joined else e :: f :: joined

/-- Edges in order, each place once and without those that gain nothing. -/
def merged (edges : List Edge) : List Edge := (joinEqual (edges.mergeSort Edge.atMost)).filter (·.gain.any (· ≠ 0))

/-- The cuts of one of some numbered edges by the others, and whether one of them is rounded. -/
def cutsOf (reach : Int) (numbered : List (Edge × Nat)) (e : Edge) (i : Nat) : List Point × Bool :=
  numbered.foldr (fun (f, j) (points, rounded) =>
    if i == j || !boxesMeet e.segment f.segment then (points, rounded)
    else if i < j then
      let c := cuts reach e.segment f.segment
      (c.first ++ points, c.rounded || rounded)
    else
      let c := cuts reach f.segment e.segment
      (c.second ++ points, c.rounded || rounded)) ([], false)

/-- Cuts edges until none crosses another, in a limited number of rounds. -/
def planar : Nat → Int → List Edge → List Edge
  | 0, _, edges => edges
  | rounds + 1, reach, edges =>
    let numbered := edges.zipIdx
    let found := numbered.map fun (e, i) => (e, cutsOf reach numbered e i)
    let pieces := merged (found.flatMap fun (e, points, _) => e.through points)
    if found.any (·.2.2) then planar rounds (2 * reach) pieces else pieces

/-- The number of rounds in which edges are cut at most; the reach of an end covers the whole lattice by then. -/
def maxRounds : Nat := 64

/-- The arrangement of some edges. -/
def arrange (edges : List Edge) : List Edge := planar maxRounds 1 (merged edges)

/-- The points of a closed ring, each once and without those that lie straight between their neighbours. -/
def corners (ring : Ring) : List Point :=
  let points := ring.eraseReps.dropLast
  let before := points.getLast?.toList ++ points.dropLast
  let after := points.tail ++ points.head?.toList
  (before.zip (points.zip after)).filterMap fun (a, p, b) => if turn a p b = 0 then none else some p

/-- The closed ring through some points. -/
def closed (points : List Point) : Ring := points ++ points.head?.toList

/-- The edges of several layers of closed rings. Corners where a ring goes straight on leave no trace. -/
def edgesOf (layers : List (List Ring)) : List Edge :=
  layers.zipIdx.flatMap fun (rings, k) =>
    (rings.flatMap fun ring => segments (closed (corners ring))).filterMap fun s =>
      if s.start = s.finish then none else some (.ofSegment layers.length k true s)

end AreaOfInterest.Lattice
