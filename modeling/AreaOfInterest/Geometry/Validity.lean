import AreaOfInterest.Geometry.Lattice

/-!
# Valid simple polygons

A ring is simple when no two of its segments meet, except that one may start where another ends. A
polygon is valid when its rings are finite and simple, its holes lie within the exterior and no two
rings share a line or, for two holes, area. The parts of a multipolygon may share points only. All of it
is decided exactly.

A ring of three points on one line is simple too. Such a flat ring has its inside on both of its sides: whatever
touches it touches its inside. So a flat ring and another area have to stay apart altogether, and a hole fits
into a flat exterior when it starts on it and does not cross it.
-/

namespace AreaOfInterest.Validity

open AreaOfInterest.Lattice

/-- Number of points left when neighbouring equal ones are merged. -/
def distinctCount : Ring → Nat
  | a :: b :: rest => if a = b then distinctCount (b :: rest) else distinctCount (b :: rest) + 1
  | ring => ring.length

/-- Whether two segments of one ring may stand beside each other. -/
def compatible (s t : Segment) : Bool :=
  s.start == t.finish || s.finish == t.start || !meet s t

/-- Whether every two members of a list are related. -/
def allPairs {β : Type} (related : β → β → Bool) : List β → Bool
  | [] => true
  | b :: rest => rest.all (related b) && allPairs related rest

/-- Whether a ring has at least four distinct steps and does not cross or touch itself. -/
def isSimple (ring : Ring) : Bool := distinctCount ring ≥ 4 && allPairs compatible (segments ring)

/-- The sides of a ring, without those that repeat a point. -/
def sides (ring : Ring) : List Segment := (segments ring).filter fun s => s.start ≠ s.finish

/-- The segment that a ring covers when all of its points lie on one line. -/
def flatSpan? (ring : Ring) : Option Segment := do
  let least ← ring.head?.map fun p => ring.foldl (fun a b => if a.atMost b then a else b) p
  let greatest ← ring.head?.map fun p => ring.foldl (fun a b => if b.atMost a then a else b) p
  if ring.all fun p => turn least greatest p == 0 then some ⟨least, greatest⟩ else none

/-- Whether two segments cross at a point that is an end of neither. -/
def cross (s t : Segment) : Bool :=
  turn s.start s.finish t.start * turn s.start s.finish t.finish < 0 &&
    turn t.start t.finish s.start * turn t.start t.finish s.finish < 0

/-- Whether a hole fits a flat exterior: it starts on it and does not cross it. At the corner in the middle of the
exterior a side may go on only where the hole has a corner as well, and across only where the exterior starts. -/
def fitsFlat (exterior : Ring) (span : Segment) (hole : Ring) : Bool :=
  let isEnd (p : Point) : Bool := p == span.start || p == span.finish
  let onSpan (s : Segment) (p : Point) : Bool := turn s.start s.finish p == 0 && between s p
  let middle? := exterior.find? (!isEnd ·)
  hole.head?.any (onSpan span) && (sides hole).all fun s =>
    let passed? := middle?.filter fun m => onSpan s m && m ≠ s.start && m ≠ s.finish
    match passed? with
    | none => !cross s span
    | some m =>
      hole.contains m &&
        ((turn s.start s.finish span.start == 0 && turn s.start s.finish span.finish == 0) || exterior.head? == some m)

/-- Whether a hole lies within the exterior ring and shares no line with it. -/
def holeFits (exterior hole : Ring) : Bool :=
  match flatSpan? exterior with
  | some span => fitsFlat exterior span hole
  | none =>
    let boundary := sides exterior
    (sides hole).all fun s => (pieces s boundary).all fun p => locate p boundary == .inside

/-- The rings of a polygon on the lattice, the exterior first; empty holes are left out. -/
structure Area where
  exterior : Ring
  holes : List Ring

/-- Every side of an area's boundary. -/
def Area.boundary (a : Area) : List Segment := sides a.exterior ++ a.holes.flatMap sides

/-- Whether no line of `a` runs inside or along the area enclosed by `b`. -/
def staysOutside (a b : List Segment) : Bool :=
  a.all fun s => (pieces s b).all fun p => locate p b == .outside

/-- Whether the boxes around two rings have a point in common. -/
def ringBoxesMeet (r t : Ring) : Bool :=
  let overlap (f : Point → Int) : Bool := r.any (fun p => t.any (f p ≤ f ·)) && t.any (fun p => r.any (f p ≤ f ·))
  overlap Point.x && overlap Point.y

/-- Whether an area's first point lies outside another area, given that their boundaries do not meet. -/
def startsOutside (a b : Area) : Bool :=
  a.exterior.head?.all fun p =>
    let location (ring : Ring) := locate ⟨p.x, p.y, 1⟩ (sides ring)
    location b.exterior == .outside || b.holes.any (location · == .inside)

/-- Whether two areas share points of their boundaries at most, and not even these when one is flat. -/
def Area.isApart (a b : Area) : Bool :=
  !ringBoxesMeet a.exterior b.exterior ||
    if (flatSpan? a.exterior).isSome || (flatSpan? b.exterior).isSome then
      !a.boundary.any (fun s => b.boundary.any (meet s)) && startsOutside a b && startsOutside b a
    else staysOutside a.boundary b.boundary && staysOutside b.boundary a.boundary

/-- Whether one polygon's rings are simple and in place. -/
def Area.isValid (a : Area) : Bool :=
  (a.exterior :: a.holes).all isSimple && a.holes.all (holeFits a.exterior) &&
    allPairs (fun p q => Area.isApart ⟨p, []⟩ ⟨q, []⟩) a.holes

/-- Whether some polygons form a valid multipolygon. -/
def areValid (polygons : List (Polygon Float)) : Bool :=
  let coords := polygons.flatMap (·.rings.flatten)
  coords.all (fun c => c.x.isFinite && c.y.isFinite) &&
    let unit := finestPlace coords
    let areas := polygons.map fun p =>
      Area.mk (p.exterior.map (ofCoord unit)) ((p.interiors.filter (!·.isEmpty)).map (·.map (ofCoord unit)))
    areas.all Area.isValid && allPairs Area.isApart areas

/-- Whether a shape is a valid simple polygon or multipolygon. Points and lines never are. -/
def isValid : Shape Float → Bool
  | .polygon p => p.exterior.length ≥ 4 && areValid [p]
  | .multiPolygon ps => !ps.isEmpty && ps.all (·.exterior.length ≥ 4) && areValid ps
  | .rect lower upper => areValid [Shape.rectPolygon lower upper]
  | .triangle a b c => areValid [Shape.trianglePolygon a b c]
  | _ => false

end AreaOfInterest.Validity
