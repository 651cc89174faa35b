import TripClient.Failure.ServerMessage
import TripClient.Http.Error
import TripClient.Json.Printer
import TripClient.Json.Record

/-!
# Failures

Every operation of the client ends with a value or with a failure. A failure has a kind, a message
for people, possibly a message for developers, and a context of named values. It can be written as
JSON and read back.
-/

namespace TripClient

/-- What kind of thing went wrong. -/
inductive Failure.Kind where
  | badRequest
  | unauthorized
  | forbidden
  | notFound
  | server
  | status
  | network
  | decode
  | invalidRequest
  | config
  deriving DecidableEq

namespace Failure.Kind

/-- All kinds. -/
def all : List Kind :=
  [.badRequest, .unauthorized, .forbidden, .notFound, .server, .status, .network, .decode,
    .invalidRequest, .config]

/-- The name of a kind in JSON. -/
def name : Kind → String
  | .badRequest => "BadRequest"
  | .unauthorized => "Unauthorized"
  | .forbidden => "Forbidden"
  | .notFound => "NotFound"
  | .server => "Server"
  | .status => "Status"
  | .network => "Network"
  | .decode => "Decode"
  | .invalidRequest => "InvalidRequest"
  | .config => "Config"

/-- The code of a kind in messages for developers. -/
def code : Kind → String
  | .badRequest => "BAD_REQUEST"
  | .unauthorized => "UNAUTHORIZED"
  | .forbidden => "FORBIDDEN"
  | .notFound => "NOT_FOUND"
  | .server => "SERVER_ERROR"
  | .status => "HTTP_STATUS"
  | .network => "NETWORK_ERROR"
  | .decode => "DECODE_ERROR"
  | .invalidRequest => "INVALID_REQUEST"
  | .config => "CONFIG_ERROR"

/-- The kind of a status that is no success. -/
def ofStatus (status : Nat) : Kind :=
  if status == 400 then .badRequest
  else if status == 401 then .unauthorized
  else if status == 403 then .forbidden
  else if status == 404 then .notFound
  else if status == 500 then .server
  else .status

/-- Whether trying again may help. -/
def isRetryable : Kind → Bool
  | .network | .server => true
  | _ => false

/-- The kind of that name. -/
def ofName? (name : String) : Option Kind := all.find? fun k => k.name == name

/-- A kind is read by its name. -/
def decoder : Json.Decoder Kind :=
  .choice fun name =>
    match ofName? name with
    | some k => .ok k
    | none => .error (.unknownVariant name (all.map Kind.name))

end Failure.Kind

/-- Why an operation did not give a value. -/
structure Failure where
  kind : Failure.Kind
  message : String
  /-- The status of the response, if there was one. -/
  status : Option Nat
  /-- Whether the message is the server's. -/
  fromServer : Bool
  /-- A message for developers. -/
  internal : Option String
  /-- Named values, in rising order of the names. -/
  context : List (String × String)
  deriving DecidableEq

namespace Failure

/-- A failure of a kind, with a message. -/
def ofKind (kind : Kind) (message : String) : Failure := ⟨kind, message, none, false, none, []⟩

/-- A failure to be signed in. -/
def unauthorized (message : String) : Failure := .ofKind .unauthorized message

/-- A failure to make sense of an answer. -/
def decode (message : String) : Failure := .ofKind .decode message

/-- A request that must not be made. -/
def invalidRequest (message : String) : Failure := .ofKind .invalidRequest message

/-- A configuration that cannot be used. -/
def config (message : String) : Failure := .ofKind .config message

/-- The failure of a response that is no success. -/
def ofStatus (status : Nat) (body : ByteArray) : Failure :=
  match ServerMessage.ofBody? body with
  | some message => ⟨.ofStatus status, message, some status, true, none, []⟩
  | none =>
    ⟨.ofStatus status, s!"Request failed with status {status}", some status, false, none, []⟩

/-- The failure with a message for developers. -/
def withInternal (message : String) (f : Failure) : Failure := { f with internal := some message }

/-- The failure with one more named value. -/
def withContext (name value : String) (f : Failure) : Failure :=
  { f with context := Sorted.insert name value f.context }

/-- The code of the failure's kind. -/
def code (f : Failure) : String := f.kind.code

/-- Whether the failure is one to be signed in. -/
def isUnauthorized (f : Failure) : Bool := f.kind == .unauthorized

/-- Whether trying again may help. -/
def isRetryable (f : Failure) : Bool := f.kind.isRetryable

/-- The failure for developers. -/
def display (f : Failure) : String :=
  let internal := match f.internal with
    | some message => " (internal: " ++ message ++ ")"
    | none => ""
  "[" ++ f.code ++ "] " ++ f.message ++ internal

/-- The failure for people: the server's words if there are any, or words for its kind. -/
def userFacing (f : Failure) : String :=
  if f.fromServer then f.message
  else match f.kind with
  | .network => "Unable to connect. Please check your internet connection and try again."
  | .unauthorized => "Your session has expired. Please sign in again."
  | .forbidden => "You don't have permission to perform this action."
  | .notFound => "The requested item could not be found."
  | .badRequest | .invalidRequest => f.message
  | .server | .status => "The server could not complete the request. Please try again later."
  | .decode | .config => "An unexpected error occurred. Please try again or contact support."

/-- The failure that an error of an exchange is. -/
def ofHttp (e : Http.Error) : Failure :=
  let kind : Kind :=
    match e with
    | .connection _ _ | .timeout _ _ => .network
    | .invalidResponse _ _ | .responseTooLarge _ _ => .decode
    | _ => .invalidRequest
  let f := ofKind kind e.message
  match e.requestId? with
  | some id => f.withContext "request_id" id
  | none => f

/-- A failure as JSON. -/
def toJson (f : Failure) : Json :=
  .object [
    ("kind", .string f.kind.name),
    ("message", .string f.message),
    ("status", match f.status with | some n => .ofNat n | none => .null),
    ("server_message", .bool f.fromServer),
    ("internal_message", .ofText? f.internal),
    ("context", .object (f.context.map fun (name, value) => (name, .string value)))]

/-- The fields of a failure in JSON. -/
def shape : Json.Shape Failure :=
  (fun kind message status fromServer internal context =>
    ⟨kind, message, status, fromServer, internal, Sorted.ofList context⟩)
    <$> Json.Shape.ofField (.required "kind" Kind.decoder)
    <*> Json.Shape.ofField (.required "message" .text)
    <*> Json.Shape.ofField (.nullable "status" (.natUpTo 65535 "u16"))
    <*> Json.Shape.ofField (.required "server_message" .bool)
    <*> Json.Shape.ofField (.nullable "internal_message" .text)
    <*> Json.Shape.ofField (.required "context" (.pairs .text))

/-- How a failure is read. -/
def decoder : Json.Decoder Failure := shape.decode "AppError"

/-- A failure as the text of its JSON. -/
def text (f : Failure) : String := f.toJson.render

end Failure

/-- What an operation ends with. -/
abbrev Outcome (α : Type) := Except Failure α

end TripClient
