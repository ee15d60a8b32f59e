import AreaOfInterest.Editor
import AreaOfInterest.Main
import AreaOfInterest.Proofs.Buffers
import AreaOfInterest.Proofs.Dragging
import AreaOfInterest.Proofs.VertexEdits
import AreaOfInterest.Proofs.Refusals
import AreaOfInterest.Proofs.Signals
import AreaOfInterest.Proofs.Clicks
import AreaOfInterest.Proofs.Conversions
import AreaOfInterest.Proofs.Layers
import AreaOfInterest.Proofs.Neighbours
import AreaOfInterest.Proofs.Sketches
import AreaOfInterest.Proofs.Reverting
import AreaOfInterest.Proofs.BoxRuns
import AreaOfInterest.Proofs.MapView
import AreaOfInterest.Proofs.Tools
import AreaOfInterest.Proofs.GeographicFrame
import AreaOfInterest.Proofs.FivePlaces
import AreaOfInterest.Proofs.Cancelling
import AreaOfInterest.Proofs.Lossless
import AreaOfInterest.Proofs.Members
import AreaOfInterest.Proofs.TwoViews
import AreaOfInterest.Proofs.Payloads
import AreaOfInterest.Proofs.KeyOrder
import AreaOfInterest.Proofs.Rereading
import AreaOfInterest.Proofs.ForeignMembers
import AreaOfInterest.Proofs.ZoomLimits
import AreaOfInterest.Proofs.Snapping
import AreaOfInterest.Proofs.BoxCorners
import AreaOfInterest.Proofs.RingMoves
import AreaOfInterest.Proofs.MovePaths
import AreaOfInterest.Proofs.Hovering
import AreaOfInterest.Proofs.Releases
import AreaOfInterest.Proofs.Highlights
import AreaOfInterest.Proofs.MovedRings
import AreaOfInterest.Proofs.Corners
import AreaOfInterest.Proofs.CornerOrders
import AreaOfInterest.Proofs.BufferParts
import AreaOfInterest.Proofs.AreaLimit
import AreaOfInterest.Proofs.UsableViews
import AreaOfInterest.Proofs.StoredBoxes
import AreaOfInterest.Proofs.ShortPositions
import AreaOfInterest.Proofs.DominantKinds
import AreaOfInterest.Proofs.Hulls
import AreaOfInterest.Proofs.Fitting
import AreaOfInterest.Proofs.SquareWorld
import AreaOfInterest.Proofs.WrittenBoxes
import AreaOfInterest.Proofs.PlaceLabels
import AreaOfInterest.Proofs.Places
import AreaOfInterest.Proofs.Commands
import AreaOfInterest.Proofs.LeastBoxes
import AreaOfInterest.Proofs.Pixels
import AreaOfInterest.Proofs.Picking
import AreaOfInterest.Proofs.NearestPlaces
