import AreaOfInterest.Geometry.Shape
import AreaOfInterest.Decimal.Binary

/-!
# Exact plane geometry

Points with whole coordinates, so that orientation, contact and location are decided without rounding.
The positions of a shape in doubles are put on such a lattice by taking the finest binary place that any
of them uses as the unit.
-/

namespace AreaOfInterest.Lattice

/-- A point of the lattice. -/
structure Point where
  x : Int
  y : Int
  deriving DecidableEq, Repr, Inhabited

/-- Reading order of points: from left to right, then upwards. -/
def Point.atMost (p q : Point) : Bool := p.x < q.x || (p.x == q.x && p.y ≤ q.y)

/-- A directed segment. -/
structure Segment where
  start : Point
  finish : Point
  deriving DecidableEq, Repr, Inhabited

/-- A closed line of points. -/
abbrev Ring := List Point

/-- The segments between neighbouring points. -/
def segments (ring : Ring) : List Segment := (ring.zip ring.tail).map fun (a, b) => ⟨a, b⟩

/-- The binary place that a double needs; zero needs none. -/
def place (x : Float) : Int := if x == 0.0 then 1023 else (Binary.ofFloat x).exponent

/-- The finest binary place that any of some finite positions needs. -/
def finestPlace (coords : List (Coord Float)) : Int :=
  coords.foldl (fun unit c => min unit (min (place c.x) (place c.y))) 1023

/-- The lattice point of a position, in units of `2 ^ unit`. -/
def ofCoord (unit : Int) (c : Coord Float) : Point :=
  ⟨(Binary.ofFloat c.x).multipleOf unit, (Binary.ofFloat c.y).multipleOf unit⟩

/-- Twice the signed area of a triangle: positive when it turns left at `b`. -/
def turn (a b c : Point) : Int := (b.x - a.x) * (c.y - a.y) - (b.y - a.y) * (c.x - a.x)

/-- Whether `p`, on the line through the segment, lies between its ends. -/
def between (s : Segment) (p : Point) : Bool :=
  min s.start.x s.finish.x ≤ p.x && p.x ≤ max s.start.x s.finish.x &&
    min s.start.y s.finish.y ≤ p.y && p.y ≤ max s.start.y s.finish.y

/-- Whether the boxes around two segments have a point in common. -/
def boxesMeet (s t : Segment) : Bool :=
  min s.start.x s.finish.x ≤ max t.start.x t.finish.x && min t.start.x t.finish.x ≤ max s.start.x s.finish.x &&
    min s.start.y s.finish.y ≤ max t.start.y t.finish.y && min t.start.y t.finish.y ≤ max s.start.y s.finish.y

/-- Whether two segments have a point in common. -/
def meet (s t : Segment) : Bool :=
  boxesMeet s t &&
    let a := turn s.start s.finish t.start
    let b := turn s.start s.finish t.finish
    let c := turn t.start t.finish s.start
    let d := turn t.start t.finish s.finish
    (a == 0 && between s t.start) || (b == 0 && between s t.finish) ||
      (c == 0 && between t s.start) || (d == 0 && between t s.finish) ||
      ((a > 0) != (b > 0) && (c > 0) != (d > 0) && a != 0 && b != 0 && c != 0 && d != 0)

/-- A place on a segment: `numerator / denominator` of the way from its start. -/
structure Fraction where
  numerator : Int
  denominator : Int
  deriving Repr

/-- Order of places with positive denominators. -/
def Fraction.atMost (s t : Fraction) : Bool := s.numerator * t.denominator ≤ t.numerator * s.denominator

/-- The place with a positive denominator. -/
def Fraction.make (numerator denominator : Int) : Fraction :=
  if denominator < 0 then ⟨-numerator, -denominator⟩ else ⟨numerator, denominator⟩

/-- Whether a place lies between start and end, both included. -/
def Fraction.isInside (t : Fraction) : Bool := 0 ≤ t.numerator && t.numerator ≤ t.denominator

/-- The places of `s` where it enters, leaves or crosses `t`. -/
def contacts (s t : Segment) : List Fraction :=
  let dx := s.finish.x - s.start.x
  let dy := s.finish.y - s.start.y
  let ex := t.finish.x - t.start.x
  let ey := t.finish.y - t.start.y
  let cross := dx * ey - dy * ex
  let fx := t.start.x - s.start.x
  let fy := t.start.y - s.start.y
  if cross ≠ 0 then
    let along := Fraction.make (fx * ey - fy * ex) cross
    let across := Fraction.make (fx * dy - fy * dx) cross
    if along.isInside && across.isInside then [along] else []
  else if fx * dy - fy * dx = 0 then
    let length := dx * dx + dy * dy
    let places := [fx * dx + fy * dy, (fx + ex) * dx + (fy + ey) * dy].map fun n => Fraction.make n length
    places.filter Fraction.isInside
  else []

/-- A point whose coordinates are `x / scale` and `y / scale`. -/
structure Scaled where
  x : Int
  y : Int
  scale : Int

/-- The point of a segment at a place. -/
def Segment.at (s : Segment) (t : Fraction) : Scaled :=
  ⟨s.start.x * t.denominator + (s.finish.x - s.start.x) * t.numerator,
    s.start.y * t.denominator + (s.finish.y - s.start.y) * t.numerator, t.denominator⟩

/-- The middles of the pieces into which `s` is cut by the other segments. -/
def pieces (s : Segment) (others : List Segment) : List Scaled :=
  let cuts := ⟨0, 1⟩ :: ⟨1, 1⟩ :: (others.filter (boxesMeet s)).flatMap (contacts s)
  let cuts := cuts.mergeSort Fraction.atMost
  (cuts.zip cuts.tail).filterMap fun (t, u) =>
    if u.atMost t then none
    else some (s.at ⟨t.numerator * u.denominator + u.numerator * t.denominator, 2 * t.denominator * u.denominator⟩)

/-- Where a point lies with respect to an area. -/
inductive Location where
  | inside | boundary | outside
  deriving DecidableEq, Repr

/-- Where a point lies with respect to the area that some segments enclose, by counting the segments to its right. -/
def locate (p : Scaled) (boundary : List Segment) : Location :=
  let onSegment (s : Segment) : Bool :=
    let ax := s.start.x * p.scale; let ay := s.start.y * p.scale
    let bx := s.finish.x * p.scale; let bY := s.finish.y * p.scale
    (bx - ax) * (p.y - ay) == (bY - ay) * (p.x - ax) &&
      min ax bx ≤ p.x && p.x ≤ max ax bx && min ay bY ≤ p.y && p.y ≤ max ay bY
  let crosses (s : Segment) : Bool :=
    let ay := s.start.y * p.scale; let bY := s.finish.y * p.scale
    if (ay ≤ p.y) == (bY ≤ p.y) then false
    else
      let side := (s.finish.x - s.start.x) * p.scale * (p.y - ay) - (bY - ay) * (p.x - s.start.x * p.scale)
      if bY > ay then side > 0 else side < 0
  if boundary.any onSegment then .boundary
  else if (boundary.countP crosses) % 2 = 1 then .inside
  else .outside

end AreaOfInterest.Lattice
