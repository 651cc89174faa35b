import TripClient.Failure.Basic
import TripClient.Http.Request
import TripClient.Url.Endpoint
import TripClient.Url.Parser

/-!
# Settings

What the surrounding program decides for a client, usually as JSON. Settings are checked as a whole
before they are used (`Settings.check`); the address of the server is brought into a form to which
paths can be added (`Settings.base`).
-/

namespace TripClient

/-- What the surrounding program decides. Times are in milliseconds. -/
structure Settings where
  baseUrl : String
  requestTimeout : Nat
  uploadTimeout : Nat
  cacheCapacity : Nat
  maxResponseBytes : Nat
  userAgent : String
  deriving DecidableEq

namespace Settings

/-- The settings of a client about which nothing is said. -/
def usual : Settings where
  baseUrl := "https://api.travelmate.app/api/"
  requestTimeout := 30000
  uploadTimeout := 120000
  cacheCapacity := 500
  maxResponseBytes := 16 * 1024 * 1024
  userAgent := "travelmate-shared/0.1.0"

/-- The greatest size of a response that settings may allow. -/
def responseLimit : Nat := 100 * 1024 * 1024

/-- The greatest number of 64 bits. -/
def maxWord : Nat := Nat.pow 2 64 - 1

/-- The fields of settings. -/
def shape : Json.Shape Settings :=
  Settings.mk
    <$> Json.Shape.ofField (.withDefault "base_url" .text usual.baseUrl)
    <*> Json.Shape.ofField
      (.withDefault "request_timeout_ms" (.natUpTo maxWord "u64") usual.requestTimeout)
    <*> Json.Shape.ofField
      (.withDefault "upload_timeout_ms" (.natUpTo maxWord "u64") usual.uploadTimeout)
    <*> Json.Shape.ofField
      (.withDefault "detail_cache_capacity" (.natUpTo maxWord "usize") usual.cacheCapacity)
    <*> Json.Shape.ofField
      (.withDefault "max_response_bytes" (.natUpTo maxWord "usize") usual.maxResponseBytes)
    <*> Json.Shape.ofField (.withDefault "user_agent" .text usual.userAgent)

/-- How settings are read. -/
def decoder : Json.Decoder Settings := shape.decode "ClientConfig"

/-- Settings as JSON. -/
def toJson (s : Settings) : Json :=
  .object [
    ("base_url", .string s.baseUrl),
    ("request_timeout_ms", .ofNat s.requestTimeout),
    ("upload_timeout_ms", .ofNat s.uploadTimeout),
    ("detail_cache_capacity", .ofNat s.cacheCapacity),
    ("max_response_bytes", .ofNat s.maxResponseBytes),
    ("user_agent", .string s.userAgent)]

/-- The URL that the addresses of all requests start with. -/
def base (s : Settings) : Outcome Url :=
  match Url.parse (Text.trim s.baseUrl) with
  | .error e => .error (.config s!"invalid base_url '{s.baseUrl}': {e.message}")
  | .ok u =>
    if !Http.Address.schemes.contains (String.ofList u.scheme) then
      .error (.config "base_url must use http or https")
    else if u.authority.isNone then
      .error (.config "base_url must be an absolute URL with a host")
    else .ok u.asBase

/-- Refuses settings that a client could not work with. -/
def check (s : Settings) : Outcome Unit := do
  let _ ← s.base
  if s.requestTimeout = 0 ∨ Http.Request.maxTimeout < s.requestTimeout then
    throw (.config s!"request_timeout_ms must be between 1 and {Http.Request.maxTimeout}")
  if s.uploadTimeout < s.requestTimeout ∨ Http.Request.maxTimeout < s.uploadTimeout then
    throw (.config
      s!"upload_timeout_ms must be between request_timeout_ms and {Http.Request.maxTimeout}")
  if s.cacheCapacity = 0 then throw (.config "detail_cache_capacity must be > 0")
  if s.maxResponseBytes = 0 ∨ responseLimit < s.maxResponseBytes then
    throw (.config s!"max_response_bytes must be between 1 and {responseLimit}")
  if Text.isBlankText s.userAgent then throw (.config "user_agent cannot be empty")

/-- Reads and checks settings. -/
def ofText (text : String) : Outcome Settings := do
  match decoder.ofDocument (.ofBytes (Text.bytesOf text)) with
  | .error p => throw (.config s!"invalid client configuration: {p.message}")
  | .ok s =>
    s.check
    return s

end Settings

end TripClient
