import TripClient.Http.Intake
import TripClient.Http.MediaType
import TripClient.Http.Request
import TripClient.Http.Response
import TripClient.Settings

/-!
# Sending requests

A request that can be written down is sent, and what becomes of it decides the answer. A response is
taken in up to a limit; its headers are kept as far as they are plain text.
-/

namespace TripClient.Http

/-- A response as it arrives. -/
structure Arrival where
  status : Nat
  /-- The length of the body, if it is declared. -/
  declared : Option Nat
  headers : List (String × String)
  chunks : List (List UInt8)
  /-- Whether the body ended before it was complete. -/
  cut : Bool
  /-- How long all of it took, in milliseconds. -/
  duration : Nat

/-- What becomes of a request that is sent. -/
inductive Delivery where
  /-- Nobody was there, or nobody stayed to answer. -/
  | lost
  /-- There was no answer in time. -/
  | unanswered
  | answered (arrival : Arrival)

/-- How requests are sent: how much of a response is taken in at most. -/
structure Transport where
  cap : Nat

namespace Transport

/-- Whether a header may have that value on the way. -/
def isSendable (value : String) : Bool :=
  value.toList.all fun c => c == '\t' || MediaType.isQuotable c

/-- The reason when a request or a sender could not be put together. -/
def unbuilt : String := "builder error"

/-- How requests are sent with these settings. -/
def ofSettings (s : Settings) : Except Error Transport :=
  if isSendable s.userAgent then .ok ⟨min s.maxResponseBytes Settings.responseLimit⟩
  else .error (.invalidRequest s!"failed to build HTTP client: {unbuilt}")

/-- Refuses a file whose type is none. -/
def checkFiles : List FilePart → Except Error Unit
  | [] => .ok ()
  | p :: rest =>
    if MediaType.isValid p.contentType then checkFiles rest
    else .error (.invalidRequest s!"invalid content type '{p.contentType}': {unbuilt}")

/-- Refuses a request that cannot be written down. -/
def checkSendable (r : Request) : Except Error Unit := do
  match r.body with
  | .form f => checkFiles f.files
  | _ => .ok ()
  if !r.headers.entries.all fun e => isSendable e.2 then throw (.invalidRequest unbuilt)

/-- Whether a header value is plain text. -/
def isPlain (value : String) : Bool :=
  value.toList.all fun c => c == '\t' || (MediaType.isQuotable c && c.toNat < 0x80)

/-- The headers of a response: the values of one name stand together, in small letters. -/
def received (headers : List (String × String)) : Headers :=
  let small := headers.map fun (name, value) => (Text.lowercase name, value)
  let names := (small.map (·.1)).eraseDups
  ⟨names.flatMap fun name => small.filter fun e => e.1 == name && isPlain e.2⟩

/-- The answer to a request whose response arrives. -/
def receive (t : Transport) (r : Request) (a : Arrival) : Answer := do
  let body ← Intake.read t.cap a.declared a.chunks
  if a.cut then throw (.connection r.address.host "error decoding response body")
  return ⟨a.status, received a.headers, ⟨body.toArray⟩, r.id, a.duration⟩

/-- Sends a request, given what becomes of it. -/
def send (t : Transport) (deliver : Request → Delivery) (r : Request) : Answer := do
  checkSendable r
  match deliver r with
  | .lost =>
    throw (.connection r.address.host s!"error sending request for url ({r.address.text})")
  | .unanswered => throw (.timeout r.timeout r.id)
  | .answered a => t.receive r a

end Transport

end TripClient.Http
