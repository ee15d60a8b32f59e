import AreaOfInterest.Drawing.Mode
import AreaOfInterest.GeoJson.Encode

/-!
# Selection records

The current area of interest with its labels. Of its three collections `initial` is fixed when the record
is made and is what reverting restores, `base` is the latest shape without a buffer, from which every buffer
is computed, and `working` is what others see.
-/

namespace AreaOfInterest

/-- The current area of interest. -/
structure SelectionRecord (α : Type) where
  working : FeatureCollection α
  initial : FeatureCollection α
  base : FeatureCollection α
  kind : GeometryKind
  title : String
  description : String
  provenance : Provenance
  /-- The buffer distance in metres. -/
  buffer : α

namespace SelectionRecord

variable {α : Type}

/-- A new record of a collection, without a buffer. -/
def new [Scalar α] (c : FeatureCollection α) (kind : GeometryKind) (provenance : Provenance)
    (title description : String) : SelectionRecord α :=
  { working := c, initial := c, base := c, kind, title, description, provenance, buffer := 0.0 }

/-- Whether the shape or the buffer differs from what was first selected. -/
def isModified [Scalar α] (r : SelectionRecord α) : Bool := r.working != r.initial || r.buffer != 0.0

/-- A record as JSON; the base is left out. -/
def toJson (r : SelectionRecord Float) : Json :=
  .object
    [("geojson", r.working.toJson), ("originalGeojson", r.initial.toJson), ("geomType", .string r.kind.name),
      ("title", .string r.title), ("description", .string r.description),
      ("selectionType", .string r.provenance.name), ("buffer", .ofFloat r.buffer)]

end SelectionRecord

end AreaOfInterest
