/-!
# Drawing modes

Exactly one mode holds at a time: the normal one, in which vertices can be dragged, or one of the two
drawing tools. A selection remembers how it came about.
-/

namespace AreaOfInterest

/-- How a selection came about. -/
inductive Provenance where
  | search | box | free | mapView | imported
  deriving DecidableEq, Repr

/-- The name of a provenance in records. -/
def Provenance.name : Provenance → String
  | search => "search"
  | box => "box"
  | free => "free"
  | mapView => "mapView"
  | imported => "import"

/-- The tool in use. -/
inductive DrawMode where
  | normal | drawBox | drawFree
  deriving DecidableEq, Repr

/-- What changes the tool. -/
inductive ToolEvent where
  | selectBox | selectFree
  /-- A drawing was accepted. -/
  | finish
  | cancel
  deriving DecidableEq, Repr

namespace DrawMode

/-- The mode after an event. -/
def transition (_ : DrawMode) : ToolEvent → DrawMode
  | .selectBox => drawBox
  | .selectFree => drawFree
  | .finish | .cancel => normal

/-- Whether a drawing tool is in use. -/
def isDrawing (m : DrawMode) : Bool := m != normal

/-- Whether vertices can be dragged. -/
def allowsVertexEditing (m : DrawMode) : Bool := m == normal

/-- The provenance of what is drawn in the mode. -/
def provenance? : DrawMode → Option Provenance
  | normal => none
  | drawBox => some .box
  | drawFree => some .free

end DrawMode

end AreaOfInterest
