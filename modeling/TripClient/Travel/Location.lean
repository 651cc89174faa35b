import TripClient.Failure.Basic
import TripClient.Travel.Plan

/-!
# Locations and coordinates

A location may have coordinates, which servers write under several names, often several at once. A
coordinate pair that is used has been checked (`Coordinates.check`).
-/

namespace TripClient

/-- A place on the globe, in degrees. -/
structure Coordinates where
  latitude : Float
  longitude : Float

namespace Coordinates

/-- Whether a number lies between two bounds. -/
def within (low high x : Float) : Bool := low ≤ x && x ≤ high

/-- Coordinates that are finite and on the globe. -/
def check (latitude longitude : Float) : Outcome Coordinates :=
  if !latitude.isFinite || !longitude.isFinite then
    .error (.invalidRequest "Coordinates must be finite numbers")
  else if !within (-90) 90 latitude then
    .error (.invalidRequest
      s!"Latitude must be between -90 and 90, got {Decimal.plain latitude}")
  else if !within (-180) 180 longitude then
    .error (.invalidRequest
      s!"Longitude must be between -180 and 180, got {Decimal.plain longitude}")
  else .ok ⟨latitude, longitude⟩

/-- Coordinates as JSON. -/
def toJson (c : Coordinates) : Json :=
  .object [("lat", .number (.float c.latitude)), ("lon", .number (.float c.longitude))]

end Coordinates

/-- A place to visit. -/
structure Location where
  id : LocationId
  name : String
  address : Option String
  latitude : Option Float
  longitude : Option Float
  category : Option String

namespace Location

/-- The fields of a location. Address, latitude and longitude have several spellings, each a field of
its own; the first that is not `null` counts. -/
def shape : Json.Shape Location :=
  (fun id name address formatted latitude lat longitude lng lon category =>
    (⟨id, name, address.or formatted, latitude.or lat, (longitude.or lng).or lon, category⟩ :
      Location))
    <$> Json.Shape.ofField (.required "id" Id.decoder)
    <*> Json.Shape.ofField (.required "name" .text)
    <*> Json.Shape.ofField (.optional "address" .text)
    <*> Json.Shape.ofField (.optional "formatted_address" .text)
    <*> Json.Shape.ofField (.optional "latitude" .float)
    <*> Json.Shape.ofField (.optional "lat" .float)
    <*> Json.Shape.ofField (.optional "longitude" .float)
    <*> Json.Shape.ofField (.optional "lng" .float)
    <*> Json.Shape.ofField (.optional "lon" .float)
    <*> Json.Shape.ofField (.optional "category" .text)

/-- How a location is read. -/
def decoder : Json.Decoder Location := shape.decode "LocationWire"

/-- A location as JSON. -/
def toJson (l : Location) : Json :=
  .ofMembers [
    ("id", l.id.toJson),
    ("name", .string l.name),
    ("address", .ofText? l.address),
    ("latitude", .ofFloat? l.latitude),
    ("longitude", .ofFloat? l.longitude),
    ("category", .ofText? l.category)]

/-- Where the location is, if it says so and the coordinates are on the globe. -/
def coordinates? (l : Location) : Option Coordinates := do
  (Coordinates.check (← l.latitude) (← l.longitude)).toOption

end Location

end TripClient
