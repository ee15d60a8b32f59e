import AreaOfInterest.Json.Lexer

/-!
# Failures

Why an operation on selections is refused. None of them ends an editing session: whoever asked keeps
what was there before.
-/

namespace AreaOfInterest

/-- Why JSON data could not be read. -/
inductive JsonFault where
  /-- The text is not JSON. -/
  | text (fault : Json.TextFault)
  /-- The value does not have the form that is asked for. -/
  | form
  deriving DecidableEq, Repr

/-- Why an operation is refused. -/
inductive Failure (α : Type) where
  /-- The `type` member is not text, or is missing. -/
  | untyped
  /-- The `type` member names nothing known. -/
  | unknownType (name : String)
  /-- A position has fewer than two ordinates. -/
  | invalidPosition (count : Nat)
  | bufferOutOfRange (distance limit : α)
  | emptyBuffer
  | noSelection
  | noPendingBuffer
  | json (fault : JsonFault)
  /-- A ring without points has no outline. -/
  | emptyRing
  deriving DecidableEq, Repr

/-- The text of a failure; faults of JSON data and empty rings have none of their own. -/
def Failure.message : Failure Float → String
  | untyped => "malformed GeoJSON: missing \"type\" member"
  | unknownType name => "malformed GeoJSON: unknown GeoJSON type \"" ++ name ++ "\""
  | invalidPosition count => "position must have at least two ordinates, got " ++ toString count
  | bufferOutOfRange distance limit =>
    "buffer distance " ++ Decimal.plainText distance ++ "m is outside 0..=" ++ Decimal.plainText limit ++ "m"
  | emptyBuffer => "buffering produced an empty geometry"
  | noSelection => "no AOI is selected"
  | noPendingBuffer => "no buffer preview is pending"
  | json _ | emptyRing => ""

end AreaOfInterest
