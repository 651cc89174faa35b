import TripClient.Json.Decoder
import TripClient.Json.Reader
import TripClient.Text.Blank

/-!
# The server's own words

An error body often says what went wrong, in one of several forms. `ofBody?` takes the text out: of
an object the members `detail`, `error` and `message` count first, then the first member that holds
a text, with its name in front; of an array the first element that holds one. The text is trimmed
and cut to `maxBytes`.
-/

namespace TripClient.Failure.ServerMessage

/-- The greatest length of a message that is shown. -/
def maxBytes : Nat := 512

mutual

/-- The first text in a value: itself if it is a text that is not blank, or in one of its elements,
or in its `detail`, or in its `message`. -/
def firstText? : Json → Option String
  | .string s => if Text.isBlankText s then none else some s
  | .array elements => firstOf elements
  | .object members =>
    (firstIn "detail" members).or (firstIn "message" members)
  | _ => none

/-- The first text in one of several values. -/
def firstOf : List Json → Option String
  | [] => none
  | v :: rest => (firstText? v).or (firstOf rest)

/-- The first text in the member of that name. -/
def firstIn (name : String) : List (String × Json) → Option String
  | [] => none
  | (n, v) :: rest => if name == n then firstText? v else firstIn name rest

end

/-- The members that are looked at before all others. -/
def preferred : List String := ["detail", "error", "message"]

/-- A text together with the member it stood in. -/
def attributed (name text : String) : String :=
  if name == "non_field_errors" then text else name ++ ": " ++ text

/-- The text that a value says, before it is trimmed. -/
def select? : Json → Option String
  | .string s => some s
  | .object members =>
    (preferred.findSome? fun name => firstIn name members).or
      (members.findSome? fun (name, v) => (firstText? v).map (attributed name))
  | .array elements => firstOf elements
  | _ => none

/-- The text that a value says. -/
def ofJson? (v : Json) : Option String := do
  let message := Text.trim (← select? v)
  if message.isEmpty then none else some (Text.truncate maxBytes message)

/-- The text that an error body says; nothing if it is no JSON. -/
def ofBody? (body : ByteArray) : Option String :=
  match Json.Decoder.ofDocument Json.Decoder.any (.ofBytes body.toList) with
  | .ok v => ofJson? v
  | .error _ => none

end TripClient.Failure.ServerMessage
