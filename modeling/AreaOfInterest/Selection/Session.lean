import AreaOfInterest.Selection.Buffering
import AreaOfInterest.Selection.Place
import AreaOfInterest.Selection.Record

/-!
# Selection sessions

At most one selection record, and the rules for making, editing, buffering and reverting it. A buffer is
always computed from the record's base, so buffers do not add up. An operation that may be refused answers
with the session that it leaves, whichever way it ends.
-/

namespace AreaOfInterest

/-- The current selection and the limits it is held to. -/
structure Session (α : Type) where
  record : Option (SelectionRecord α)
  ops : PlanarOps α
  /-- The largest admitted buffer in metres. -/
  maxBuffer : α
  /-- The largest acceptable area in square kilometres, if any. -/
  maxArea : Option α

namespace Session

variable {α : Type} [Scalar α]

/-- Largest buffer in metres unless set otherwise. -/
def defaultMaxBuffer : α := 10000.0

/-- Title of selections that have no name of their own. -/
def customTitle : String := "Custom Polygon"

/-- The running total of the areas of features; none as soon as one is unreadable or covers no area. -/
def totalArea? [Surface α] (total : α) : List (Feature α) → Option α
  | [] => some total
  | f :: rest =>
    match f.toShape? with
    | none => none
    | some shape => if shape.hasArea then totalArea? (total + shape.areaSqKm) rest else none

/-- Whether a collection may be exported: it has features, every one of them covers some area, and the total
does not exceed the limit. -/
def isAcceptable [Surface α] (c : FeatureCollection α) (maxArea : Option α) : Bool :=
  !c.features.isEmpty &&
    match totalArea? 0.0 c.features, maxArea with
    | none, _ => false
    | some total, some limit => !(total > limit)
    | some _, none => true

/-- A session without a selection and with the default limits. -/
def new (ops : PlanarOps α) : Session α := ⟨none, ops, defaultMaxBuffer, none⟩

/-- The session with other limits. -/
def withLimits (s : Session α) (maxBuffer : α) (maxArea : Option α) : Session α := { s with maxBuffer, maxArea }

/-- What the selection looks like to others. -/
def working (s : Session α) : Option (FeatureCollection α) := s.record.map (·.working)

/-- Starts a new record, labelled by the collection's most frequent kind of geometry. -/
def select (s : Session α) (c : FeatureCollection α) (provenance : Provenance) (title description : String) :
    Session α :=
  { s with record := some (.new c (c.dominantKind?.getD .polygon) provenance title description) }

/-- Selects a found place. -/
def selectPlace (s : Session α) (p : Place α) : Session α :=
  s.select (.single p.feature) .search p.name p.description

/-- Selects an imported collection, described by its most frequent kind of geometry. -/
def selectImport (s : Session α) (c : FeatureCollection α) (name : String) : Session α :=
  s.select c .imported name ((c.dominantKind?.map GeometryKind.name).getD "")

/-- Selects what the map shows. -/
def selectMapView (s : Session α) (c : FeatureCollection α) : Session α :=
  s.select c .mapView customTitle "Map View"

/-- Replaces the shape after a vertex edit. It becomes the base of buffers; what reverting restores stays. -/
def commitEdit (s : Session α) (c : FeatureCollection α) : Session α × Except (Failure α) Unit :=
  match s.record with
  | none => (s, .error .noSelection)
  | some r => ({ s with record := some { r with base := c, working := c, buffer := 0.0 } }, .ok ())

/-- Whether a buffer distance is within the limits, both ends included. -/
def admitsBuffer (s : Session α) (distance : α) : Bool := 0.0 ≤ distance && distance ≤ s.maxBuffer

/-- The base buffered by a distance. -/
def previewBuffer (s : Session α) (distance : α) : Except (Failure α) (FeatureCollection α) :=
  if s.admitsBuffer distance then
    match s.record with
    | none => .error .noSelection
    | some r => s.ops.bufferFeatures r.base distance true
  else .error (.bufferOutOfRange distance s.maxBuffer)

/-- Makes the base buffered by a distance what others see. -/
def applyBuffer (s : Session α) (distance : α) : Session α × Except (Failure α) (FeatureCollection α) :=
  match s.previewBuffer distance with
  | .error failure => (s, .error failure)
  | .ok c =>
    match s.record with
    | none => (s, .error .noSelection)
    | some r => ({ s with record := some { r with working := c, buffer := distance } }, .ok c)

/-- Restores what was first selected, without a buffer. -/
def revert (s : Session α) : Session α × Except (Failure α) (FeatureCollection α) :=
  match s.record with
  | none => (s, .error .noSelection)
  | some r =>
    ({ s with record := some { r with working := r.initial, base := r.initial, buffer := 0.0 } }, .ok r.initial)

/-- Drops the selection. -/
def clear (s : Session α) : Session α := { s with record := none }

/-- Whether there is a selection that may be exported. -/
def nextEnabled [Surface α] (s : Session α) : Bool := s.working.any fun c => isAcceptable c s.maxArea

end Session

end AreaOfInterest
