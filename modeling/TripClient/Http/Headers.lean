import TripClient.Http.Error
import TripClient.Text.Lowercase

/-!
# Headers

Headers are pairs of a name and a value, in order. Two spellings of a name that differ in case only
are one name. A header that is put in is checked, replaces those of its name, and goes to the end.
-/

namespace TripClient.Http

/-- The headers of a request or of a response. -/
structure Headers where
  entries : List (String × String)
  deriving DecidableEq

namespace Headers

/-- The greatest length of a name in bytes. -/
def maxNameBytes : Nat := 256

/-- The greatest length of a value in bytes. -/
def maxValueBytes : Nat := 8192

/-- The greatest number of headers of a request. -/
def maxCount : Nat := 100

/-- How many characters of a name are shown when it is too long. -/
def shownChars : Nat := 50

/-- No headers. -/
def empty : Headers := ⟨[]⟩

/-- Whether a character may stand in a name. -/
def isNameChar (c : Char) : Bool := c.isAlphanum || c == '-' || c == '_'

/-- Names whose headers belong to the connection. -/
def managed : List String := ["host", "content-length", "transfer-encoding"]

/-- Why a name may not be put in. -/
def nameRefusal? (name : String) : Option Error :=
  if name.isEmpty then some (.invalidHeader name "header name cannot be empty")
  else if maxNameBytes < name.utf8ByteSize then
    some (.invalidHeader (String.ofList (name.toList.take shownChars) ++ "...")
      s!"header name exceeds maximum length of {maxNameBytes} bytes")
  else match name.toList.find? fun c => !isNameChar c with
    | some c => some (.invalidHeader name s!"invalid character '{c}' in header name")
    | none =>
      if managed.contains (Text.lowercase name) then
        some (.invalidHeader name "this header is managed automatically")
      else none

/-- Whether a character would end a value. -/
def endsValue (c : Char) : Bool := c == '\r' || c == '\n' || c == '\x00'

/-- Why a value may not be put in under a name. -/
def valueRefusal? (name value : String) : Option Error :=
  if maxValueBytes < value.utf8ByteSize then
    some (.invalidHeader name s!"header value exceeds maximum length of {maxValueBytes} bytes")
  else if value.toList.any endsValue then
    some (.invalidHeader name "header value contains invalid characters (CR, LF, or NULL)")
  else none

/-- Whether two spellings are one name. -/
def sameName (a b : String) : Bool := Text.lowercase a == Text.lowercase b

/-- The headers of all other names. -/
def without (name : String) (h : Headers) : Headers :=
  ⟨h.entries.filter fun e => !sameName e.1 name⟩

/-- Puts a header in, in place of those of its name. Gives the headers afterwards, and the error if
it was not put in; a list that is full without that name loses nothing. -/
def insert (name value : String) (h : Headers) : Headers × Except Error Unit :=
  match (nameRefusal? name).or (valueRefusal? name value) with
  | some e => (h, .error e)
  | none =>
    let others := h.without name
    let count := others.entries.length
    if maxCount ≤ count then (others, .error (.tooManyHeaders (count + 1) maxCount))
    else (⟨others.entries ++ [(name, value)]⟩, .ok ())

/-- The headers with one put in. -/
def with? (name value : String) (h : Headers) : Except Error Headers :=
  match h.insert name value with
  | (h', .ok ()) => .ok h'
  | (_, .error e) => .error e

/-- The value of the first header of a name. -/
def get? (name : String) (h : Headers) : Option String :=
  (h.entries.find? fun e => sameName e.1 name).map (·.2)

/-- How many headers there are. -/
def size (h : Headers) : Nat := h.entries.length

end Headers

end TripClient.Http
