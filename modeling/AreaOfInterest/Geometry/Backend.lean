import AreaOfInterest.Geometry.Geodesic
import AreaOfInterest.Geometry.Outline
import AreaOfInterest.Geometry.Validity
import AreaOfInterest.Selection.Buffering

/-!
# Planar operations on doubles

The standard way to judge, buffer and unite shapes: validity is decided exactly, outlines have round
joins and ends, and unions are taken on a fine grid.
-/

namespace AreaOfInterest

/-- The planar operations that the editor uses unless others are put in. -/
def PlanarOps.standard : PlanarOps Float where
  isValid := Validity.isValid
  buffer? shape distance := Outline.ofShape? distance shape
  union := Overlay.union

end AreaOfInterest
