import TripClient.Client.Exchange
import TripClient.Text.Blank
import TripClient.Travel.Location

/-!
# Places

Finding locations by words or by distance.
-/

namespace TripClient.Api

open Client

/-- The smallest radius of a search, in metres. -/
def minRadius : Nat := 500

/-- The greatest radius of a search, in metres. -/
def maxRadius : Nat := 50000

/-- Locations that a text is about; nothing but blanks is about none. -/
def searchLocations (api : Api) (text : String) : Work (List Location) :=
  if Text.isBlankText text then return []
  else api.list Location.decoder ["locations", "search"] [("q", Text.trim text)] "locations"

/-- The details of a location. -/
def location (api : Api) (id : LocationId) : Work Location :=
  api.item Location.decoder ["locations", id.text] "location"

/-- Refuses a radius that is too small or too great. -/
def checkRadius (radius : Nat) : Outcome Unit :=
  if minRadius ≤ radius ∧ radius ≤ maxRadius then .ok ()
  else .error (.invalidRequest
    s!"Radius must be between {minRadius} and {maxRadius} metres, got {radius}")

/-- Locations around a place. -/
def nearby (api : Api) (center : Coordinates) (radius : Nat) : Work (List Location) := do
  Work.ofOutcome (checkRadius radius)
  api.list Location.decoder ["locations", "nearby"]
    [("lat", Decimal.sixPlaces center.latitude), ("lng", Decimal.sixPlaces center.longitude),
      ("radius", Decimal.digitText radius)] "locations"

end TripClient.Api
