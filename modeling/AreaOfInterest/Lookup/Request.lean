import AreaOfInterest.Settings
import AreaOfInterest.Web.Url

/-!
# Place searches

A search is one request to the address of the settings, which asks for the best hit with its outline and
its address. It is only made when that address and the user agent can be used.
-/

namespace AreaOfInterest

/-- Why a search finds no place. -/
inductive LookupFault where
  /-- The user agent cannot be sent. -/
  | badAgent
  /-- There is nowhere to send the request, or nobody answers it. -/
  | unsent
  | refused (status : Nat)
  | unreadable
  | nothingFound (query : String)
  deriving DecidableEq, Repr

/-- A request for a place. -/
structure LookupRequest where
  url : Url
  userAgent : String
  deriving DecidableEq, Repr

namespace LookupRequest

/-- Whether a text can be sent as a header: it has no control characters but tabs. -/
def isHeaderText (s : String) : Bool := s.toList.all fun c => (0x20 ≤ c.toNat && c.toNat ≠ 0x7F) || c = '\t'

/-- The names and values that ask for a place. -/
def form (query : String) : List (String × String) :=
  [("q", query), ("format", "geojson"), ("polygon_geojson", "1"), ("addressdetails", "1"), ("limit", "1")]

/-- The request for a query. -/
def make (query : String) (settings : LookupSettings) : Except LookupFault LookupRequest :=
  if !isHeaderText settings.userAgent then .error .badAgent
  else
    match Url.parse? settings.url with
    | none => .error .unsent
    | some url => .ok ⟨url.withForm (form query), settings.userAgent⟩

end LookupRequest

end AreaOfInterest
