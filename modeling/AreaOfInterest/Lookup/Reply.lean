import AreaOfInterest.GeoJson.Decode
import AreaOfInterest.Lookup.Request
import AreaOfInterest.Selection.Place
import AreaOfInterest.Text.Quoted
import AreaOfInterest.Web.Status

/-!
# Replies to place searches

A reply of success is a feature collection, and its first feature with a geometry is the hit.
-/

namespace AreaOfInterest

/-- What a fault of a search is told as. -/
def LookupFault.message : LookupFault → String
  | badAgent => "Failed to create HTTP client"
  | unsent => "Failed to send request to Nominatim API"
  | refused status => "Nominatim API returned error status: " ++ Status.text status
  | unreadable => "Failed to parse Nominatim GeoJSON response"
  | nothingFound query => "No place found for " ++ Text.quoted query

/-- The answer to a request. -/
structure LookupReply where
  status : Nat
  body : String

namespace LookupReply

/-- The collection of a reply of success. A reply without a proper status code does not count as one. -/
def collection (reply : LookupReply) : Except LookupFault (FeatureCollection Float) :=
  if !Status.isCode reply.status then .error .unsent
  else if !Status.isSuccess reply.status then .error (.refused reply.status)
  else if reply.status = Status.noContent then .error .unreadable
  else
    match FeatureCollection.parse? reply.body with
    | none => .error .unreadable
    | some c => .ok c

/-- The place that a reply to a query tells of; without a reply the request was not sent. -/
def place (query : String) (reply : Option LookupReply) : Except LookupFault (Place Float) := do
  let some reply := reply | .error .unsent
  match Place.first? (← reply.collection) with
  | none => .error (.nothingFound query)
  | some place => .ok place

end LookupReply

end AreaOfInterest
