import TripClient.Http.Address
import TripClient.Http.Form
import TripClient.Http.Headers
import TripClient.Json.Printer
import TripClient.Json.Problem

/-!
# Requests

A request is built step by step; each step either gives the changed request or says why it is
refused. Only some methods allow a body. A JSON body comes with its type; the type of a form is left
to whoever sends it, who has to choose what separates the parts.
-/

namespace TripClient.Http

/-- What a request asks for. -/
inductive Method where
  | get
  | post
  | put
  | patch
  | delete
  deriving DecidableEq

namespace Method

/-- The name of a method. -/
def name : Method → String
  | .get => "GET"
  | .post => "POST"
  | .put => "PUT"
  | .patch => "PATCH"
  | .delete => "DELETE"

/-- Whether a request with this method may have a body. -/
def allowsBody : Method → Bool
  | .post | .put | .patch => true
  | .get | .delete => false

end Method

/-- What a request carries. -/
inductive Body where
  | empty
  | json (text : String)
  | form (form : Form)

/-- How many bytes a body holds. -/
def Body.size : Body → Nat
  | .empty => 0
  | .json text => text.utf8ByteSize
  | .form f => f.size

/-- A request. Its id goes with it wherever it is sent. -/
structure Request where
  method : Method
  address : Address
  headers : Headers
  body : Body
  /-- How long to wait for the response, in milliseconds. -/
  timeout : Nat
  id : String

namespace Request

/-- The greatest size of a body. -/
def maxBodyBytes : Nat := 50 * 1024 * 1024

/-- How long a request waits unless it says otherwise, in milliseconds. -/
def usualTimeout : Nat := 30000

/-- How long a request may wait at most, in milliseconds. -/
def maxTimeout : Nat := 300000

/-- A request without headers and body. -/
def plain (method : Method) (address : Address) (id : String) : Request :=
  ⟨method, address, .empty, .empty, usualTimeout, id⟩

/-- The request with a header. -/
def withHeader (name value : String) (r : Request) : Except Error Request :=
  return { r with headers := ← r.headers.with? name value }

/-- The request in the name of the owner of a token. -/
def withBearer (token : String) (r : Request) : Except Error Request :=
  r.withHeader "Authorization" ("Bearer " ++ token)

/-- Refuses a body where there may be none. -/
def checkMethod (r : Request) : Except Error Unit :=
  if r.method.allowsBody then .ok ()
  else .error (.invalidRequest s!"{r.method.name} requests cannot have a body")

/-- Refuses a body that is too large. -/
def checkSize (size : Nat) : Except Error Unit :=
  if maxBodyBytes < size then .error (.bodyTooLarge size maxBodyBytes) else .ok ()

/-- The request with a JSON body, unless the value could not be written as JSON. -/
def withWritten (value : Except Json.Cause Json) (r : Request) : Except Error Request := do
  r.checkMethod
  match value with
  | .error cause => throw (.serialization cause.message)
  | .ok v =>
    let text := v.render
    checkSize text.utf8ByteSize
    let headers ← r.headers.with? "Content-Type" "application/json"
    return { r with headers, body := .json text }

/-- The request with a JSON body. -/
def withJson (v : Json) (r : Request) : Except Error Request := r.withWritten (.ok v)

/-- The request with a form as its body. -/
def withForm (f : Form) (r : Request) : Except Error Request := do
  r.checkMethod
  checkSize f.size
  return { r with body := .form f }

/-- The request with another waiting time. -/
def withTimeout (milliseconds : Nat) (r : Request) : Except Error Request :=
  if milliseconds = 0 then .error (.invalidRequest "timeout cannot be zero")
  else if maxTimeout < milliseconds then
    .error (.invalidRequest s!"timeout exceeds maximum of {maxTimeout}ms")
  else .ok { r with timeout := milliseconds }

end Request

end TripClient.Http
