import TripClient.Http.Headers
import TripClient.Json.Decoder
import TripClient.Json.Reader

/-!
# Responses

Every response that arrives is a response, whatever its status. Its body is read as JSON only when
someone asks for a value.
-/

namespace TripClient.Http

/-- A response. -/
structure Response where
  status : Nat
  headers : Headers
  body : ByteArray
  /-- The id of the request that it answers. -/
  requestId : String
  /-- How long it took, in milliseconds. -/
  duration : Nat

namespace Response

/-- Whether the request was fulfilled. -/
def isSuccess (r : Response) : Bool := 200 ≤ r.status && r.status < 300

/-- Whether the body holds anything but blanks. -/
def hasBody (r : Response) : Bool := r.body.toList.any fun b => !Text.isAsciiBlank b

/-- Reads the body. -/
def read {α : Type} (d : Json.Decoder α) (r : Response) : Except Error α :=
  (d.ofDocument (.ofBytes r.body.toList)).mapError fun p =>
    .invalidResponse s!"failed to parse JSON: {p.message}" r.requestId

end Response

/-- What comes of sending a request. -/
abbrev Answer := Except Error Response

end TripClient.Http
