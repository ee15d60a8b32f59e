import AreaOfInterest.Geometry.Overlay.Union

/-!
# Outlines at a distance

The region around a shape up to a distance, bounded by straight lines and by arcs drawn in steps. Points
and lines become discs and strokes with round ends and joins. The rings of a polygon are moved outwards, or
inwards for holes and negative distances, with round joins at the corners that open.

A curve that is moved sideways consists of the parallels of the sides. At a corner where two parallels come apart an
arc leads from one to the next; where they cross, a straight link does. The link lies inside of what the curve winds
around, unless the ring is too narrow for the distance and turns inside out. What is then enclosed has no parallel
or arc on its border, and is left out for that.
-/

namespace AreaOfInterest.Outline

open AreaOfInterest.Lattice

/-- The largest angle of a step of an arc, in radians. -/
def arcStep : Float := 0.20000000298023224

/-- Half a turn in radians. -/
def halfTurn : Float := 3.141592653589793

/-- The point at a distance from `c` in the direction of a unit vector turned by an angle. -/
def polar (c direction : Coord Float) (distance angle : Float) : Coord Float :=
  let cos := angle.cos
  let sin := angle.sin
  ⟨c.x + distance * (direction.x * cos - direction.y * sin), c.y + distance * (direction.x * sin + direction.y * cos)⟩

/-- The closed polygon of 32 corners around a point; empty unless the distance is positive. -/
def disc (c : Coord Float) (distance : Float) : Polyline Float :=
  if distance > 0.0 then
    Polyline.close <| (List.range 32).map fun i =>
      let angle := 2.0 * halfTurn / 32.0 * i.toFloat + halfTurn
      ⟨c.x + distance * angle.cos, c.y + distance * angle.sin⟩
  else []

/-- The unit vector from one point to another. -/
def direction (a b : Coord Float) : Coord Float :=
  let dx := b.x - a.x
  let dy := b.y - a.y
  let scale := 1.0 / (dx * dx + dy * dy).sqrt
  ⟨dx * scale, dy * scale⟩

/-- A unit vector turned a quarter to the right. -/
def toRight (u : Coord Float) : Coord Float := ⟨u.y, -u.x⟩

/-- Scalar product. -/
def dot (u v : Coord Float) : Float := u.x * v.x + u.y * v.y

/-- Product that is positive when `v` points to the left of `u`. -/
def cross (u v : Coord Float) : Float := u.x * v.y - u.y * v.x

/-- The points strictly inside an arc around `c` that starts in the direction `u` and turns by `angle` in equal steps. -/
def arc (c u : Coord Float) (distance angle : Float) (steps : Nat) : Polyline Float :=
  (List.range (steps - 1)).map fun i => polar c u distance (angle * (i + 1).toFloat / steps.toFloat)

/-- A line without points equal to the one before. -/
def withoutRepeats (path : Polyline Float) : Polyline Float :=
  (path.zip (path.drop 1 |>.map some |>.append [none])).filterMap fun (a, b) => if some a == b then none else some a

/-- The points on the way around a corner `c` between the parallels of a side with direction `u` and the next one with
direction `v`, where these come apart: an arc, or nothing when the directions differ by no more than a step. Rounding
can put the cosine of a turn back just outside of its range; such a corner has no arc either. -/
def joint (c u v : Coord Float) (distance : Float) : Polyline Float :=
  let cosine := dot u v
  if cosine ≤ arcStep.cos then
    let angle := cosine.acos
    arc c (toRight u) distance (if distance > 0.0 then angle else -angle) (angle / arcStep).round.toUInt64.toNat
  else []

/-- The ends of the parallel of a side at a distance to its right. -/
def parallel (distance : Float) (a b : Coord Float) : Polyline Float :=
  let right := toRight (direction a b)
  [polar a right distance 0.0, polar b right distance 0.0]

/-- The curve at a distance to the right of the sides of a line, given as pairs of their ends. -/
def rightOf (distance : Float) : List (Coord Float × Coord Float) → Polyline Float
  | [] => []
  | [(a, b)] => parallel distance a b
  | (a, b) :: (b', c) :: rest =>
    let u := direction a b
    let v := direction b' c
    parallel distance a b ++ (if cross u v ≥ 0.0 then joint b u v distance else []) ++ rightOf distance ((b', c) :: rest)

/-- The closed curve around a line: along its right side, around its end, back along the other side and around its
start. -/
def strokeCurve (path : Polyline Float) (distance : Float) : Polyline Float :=
  if distance > 0.0 then
    match withoutRepeats path with
    | [] => []
    | [c] => disc c distance
    | path =>
      let half (path : Polyline Float) : Polyline Float :=
        let sides := Polyline.segments path
        let cap := sides.getLast?.toList.flatMap fun (a, b) =>
          arc b (toRight (direction a b)) distance halfTurn (halfTurn / arcStep).floor.toUInt64.toNat
        rightOf distance sides ++ cap
      Polyline.close (half path ++ half path.reverse)
  else []

/-- The edges on the way through some lattice points. -/
def edgesAlong (firm : Bool) (way : List Point) : List Edge :=
  ((segments way).filter fun s => s.start ≠ s.finish).map (.ofSegment 1 0 firm)

/-- The pieces of the closed curve at a distance to the right of a ring that runs counter-clockwise. The parallels of the
sides and the arcs between them are firm; the links are not. -/
def offsetEdges (grid : Grid) (ring : List (Coord Float)) (distance : Float) : List Edge :=
  let sides := Polyline.segments (Polyline.close ring)
  (sides.zip (sides.tail ++ sides.head?.toList)).flatMap fun ((a, b), (_, c)) =>
    let u := direction a b
    let v := direction b c
    let opens := if distance > 0.0 then cross u v ≥ 0.0 else cross u v < 0.0
    let along := (parallel distance a b).map grid.snap
    let onward := (parallel distance b c).map grid.snap
    let between := if opens then (joint b u v distance).map grid.snap else []
    edgesAlong true along ++ edgesAlong opens (along.getLast?.toList ++ between ++ onward.head?.toList)

/-- How a ring turns at its least corner in reading order: positive when it turns left there. A ring that does not
cross itself runs counter-clockwise then. -/
def turnAtLeast (ring : Polyline Float) : Int :=
  let points := ring.map (ofCoord (finestPlace ring))
  match points with
  | [] => 0
  | first :: rest =>
    if rest.length < 3 then 0
    else
      let least := rest.foldl (fun a b => if a.atMost b then a else b) first
      let before := points.takeWhile (· ≠ least)
      let after := points.drop before.length ++ before
      match after.reverse.find? (· ≠ least), after.find? (· ≠ least) with
      | some previous, some next => turn previous least next
      | _, _ => 0

/-- A ring directed by its turn at the least corner; one without a turn there stays as it is. -/
def directed (counterClockwise : Bool) (ring : Polyline Float) : Polyline Float :=
  let turn := turnAtLeast ring
  if if counterClockwise then turn < 0 else turn > 0 then ring.reverse else ring

/-- The corners of a directed ring in counter-clockwise order and whether it ran clockwise, which makes it a hole;
none when it encloses nothing on the grid. -/
def counterClockwise? (grid : Grid) (ring : Polyline Float) : Option (List (Coord Float) × Bool) :=
  let corners := (withoutRepeats ring).dropLast
  let area := doubleArea (corners.map grid.snap)
  if area > 1 then some (corners, false)
  else if area < -1 then some (corners.reverse, true)
  else none

/-- The grid for outlines at a distance around some positions, with room for several joins and ends one after another. -/
def roomyGrid (coords : Polyline Float) (distance turns : Float) : Grid :=
  let margin := turns * (1.1 * distance.abs)
  .around (coords.flatMap fun c => [⟨c.x - margin, c.y - margin⟩, ⟨c.x + margin, c.y + margin⟩])

/-- The rings around what the curve at a distance to the right of a ring winds around. Those that run along links alone
are left out. The exterior of a moved hole runs clockwise. -/
def offsetRings (grid : Grid) (ring : List (Coord Float)) (isHole : Bool) (distance : Float) : List Ring :=
  let edges := arrange (offsetEdges grid ring (if isHole then -distance else distance))
  let rings := ((walks (boundary 1 (·.any (· > 0)) edges)).filter (isFirm edges)).map closed
  if isHole then rings.map List.reverse else rings

/-- The region around polygons: what the moved exteriors wind around more often than the moved holes do. -/
def ofPolygons (polygons : List (Polygon Float)) (distance : Float) : List (Polygon Float) :=
  let grid := roomyGrid (polygons.flatMap (·.rings.flatten)) distance 2.0
  let rings := polygons.flatMap fun p => directed true p.exterior :: p.interiors.map (directed false)
  let moved := (rings.filterMap (counterClockwise? grid)).flatMap fun (ring, isHole) => offsetRings grid ring isHole distance
  Overlay.restore grid (overlay [moved] (·.any (· > 0)))

/-- The region around lines. Strokes that are no wider than two units of the grid have no inside. -/
def ofPaths (paths : List (Polyline Float)) (distance : Float) : List (Polygon Float) :=
  let grid := roomyGrid paths.flatten distance 3.0
  if (distance * grid.scale).round > 1.0 then Overlay.region grid [paths.map (strokeCurve · distance)] (·.any (· > 0))
  else []

/-- The region covered by discs around points. -/
def ofPoints (points : List (Coord Float)) (distance : Float) : List (Polygon Float) :=
  let discs := points.map (disc · distance)
  Overlay.region (Grid.around discs.flatten) [discs] (·.any (· > 0))

/-- The polygons, unless one of their rings has no points. -/
def withFullRings? (polygons : List (Polygon Float)) : Option (List (Polygon Float)) :=
  if polygons.all fun p => p.rings.all (!·.isEmpty) then some polygons else none

mutual

/-- The region around a shape; none when a ring of a polygon has no points. -/
def ofShape? (distance : Float) : Shape Float → Option (List (Polygon Float))
  | .point c => some (if distance > 0.0 then [.ofRings (disc c distance) []] else [])
  | .line a b => some (ofPaths [[a, b]] distance)
  | .polyline path => some (ofPaths [path] distance)
  | .polygon p => (withFullRings? [p]).map (ofPolygons · distance)
  | .multiPoint points => some (ofPoints points distance)
  | .multiPolyline paths => some (ofPaths paths distance)
  | .multiPolygon ps => (withFullRings? ps).map (ofPolygons · distance)
  | .rect lower upper => some (ofPolygons [Shape.rectPolygon lower upper] distance)
  | .triangle a b c => some (ofPolygons [Shape.trianglePolygon a b c] distance)
  | .collection members => ofEach? distance [] members

/-- The union of `acc` and the regions around several shapes. -/
def ofEach? (distance : Float) (acc : List (Polygon Float)) : List (Shape Float) → Option (List (Polygon Float))
  | [] => some acc
  | shape :: rest => do
    let part ← ofShape? distance shape
    ofEach? distance (Overlay.union acc part) rest

end

end AreaOfInterest.Outline
