/-!
# What can go wrong with an exchange

An exchange of a request for a response fails before it is sent, on the way, or with the answer.
-/

namespace TripClient.Http

/-- Why there is no usable response. -/
inductive Error where
  | invalidUrl (url reason : String)
  | invalidHeader (name reason : String)
  | tooManyHeaders (count max : Nat)
  | bodyTooLarge (size max : Nat)
  | responseTooLarge (size max : Nat)
  | invalidRequest (reason : String)
  | serialization (message : String)
  | connection (host message : String)
  | timeout (milliseconds : Nat) (requestId : String)
  | invalidResponse (reason requestId : String)
  deriving DecidableEq

namespace Error

/-- The error in words. -/
def message : Error → String
  | .invalidUrl url reason => s!"invalid URL '{url}': {reason}"
  | .invalidHeader name reason => s!"invalid header '{name}': {reason}"
  | .tooManyHeaders count max => s!"too many headers: {count} exceeds maximum of {max}"
  | .bodyTooLarge size max => s!"request body too large: {size} bytes exceeds maximum of {max} bytes"
  | .responseTooLarge size max =>
    s!"response body too large: {size} bytes exceeds maximum of {max} bytes"
  | .invalidRequest reason => s!"invalid request: {reason}"
  | .serialization message => s!"serialization error: {message}"
  | .connection host message => s!"connection failed to {host}: {message}"
  | .timeout milliseconds _ => s!"timeout after {milliseconds}ms"
  | .invalidResponse reason _ => s!"invalid response: {reason}"

/-- Whether no response came at all. -/
def isNetwork : Error → Bool
  | .connection _ _ | .timeout _ _ => true
  | _ => false

/-- The request that the error belongs to, where that is known. -/
def requestId? : Error → Option String
  | .timeout _ id | .invalidResponse _ id => some id
  | _ => none

end Error

end TripClient.Http
