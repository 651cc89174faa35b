import TripClient.Http.Error
import TripClient.Text.Blank
import TripClient.Text.Utf8
import TripClient.Url.Parser

/-!
# Addresses of requests

A request goes to a URL that is not too long, whose scheme is `http` or `https`, and that holds
neither a user name nor a password. Its path is found in its text again.
-/

namespace TripClient.Http

/-- Where a request goes. -/
structure Address where
  text : String
  scheme : String
  host : String
  deriving DecidableEq

namespace Address

/-- The greatest length of an address in bytes. -/
def maxBytes : Nat := 2048

/-- How much of a URL is shown in messages. -/
def shownBytes : Nat := 100

/-- A URL in messages, shortened. -/
def shown (s : String) : String :=
  if s.utf8ByteSize ≤ shownBytes then s else Text.truncate shownBytes s ++ "..."

/-- Why a URL is refused. -/
def refusal (url reason : String) : Error := .invalidUrl (shown url) reason

/-- The refusal of a URL that is too long. -/
def tooLong (url : String) : Error :=
  refusal url s!"URL exceeds maximum length of {maxBytes} bytes"

/-- The schemes that a request may use. -/
def schemes : List String := ["http", "https"]

/-- Takes a URL for an address. -/
def ofUrl (u : Url) : Except Error Address := do
  let text := u.render
  let scheme := String.ofList u.scheme
  if maxBytes < text.utf8ByteSize then throw (tooLong text)
  if !schemes.contains scheme then
    throw (refusal text s!"invalid scheme '{scheme}', only 'http' and 'https' are allowed")
  match u.host? with
  | none => throw (refusal text "URL must have a host")
  | some host =>
    if u.hasCredentials then throw (refusal text "credentials in URL are not allowed")
    return ⟨text, scheme, String.ofList host.toChars⟩

/-- Reads an address. -/
def parse (s : String) : Except Error Address := do
  if s.isEmpty then throw (.invalidUrl "" "URL cannot be empty")
  if maxBytes < s.utf8ByteSize then throw (tooLong s)
  if Text.isBlankText s then throw (.invalidUrl s "URL cannot be only whitespace")
  match Url.parse s with
  | .ok u => ofUrl u
  | .error e => throw (refusal s e.message)

/-- What follows the first `://` of a text, if there is one. -/
def behindScheme? : List Char → Option (List Char)
  | ':' :: '/' :: '/' :: rest => some rest
  | [] => none
  | _ :: rest => behindScheme? rest

/-- What follows the first `://` of a text, or the text if there is none. -/
def behindScheme (text : List Char) : List Char := (behindScheme? text).getD text

/-- The path of an address, as it stands in its text. -/
def path (a : Address) : String :=
  String.ofList
    (((behindScheme a.text.toList).dropWhile (· != '/')).takeWhile fun c => c != '?' && c != '#')

end Address

end TripClient.Http
