import TripClient.Decimal.Layout
import TripClient.Json.Basic

/-!
# JSON texts

The compact text of a value: no blanks, members in their order. In a text quotes, backslashes and
control characters are escaped, and nothing else is.
-/

namespace TripClient.Json

/-- How one character is written inside a JSON string. -/
def escapeChar (c : Char) : String :=
  if c == '"' then "\\\""
  else if c == '\\' then "\\\\"
  else if 0x20 ≤ c.toNat then c.toString
  else if c == '\x08' then "\\b"
  else if c == '\t' then "\\t"
  else if c == '\n' then "\\n"
  else if c == '\x0c' then "\\f"
  else if c == '\r' then "\\r"
  else "\\u00" ++ (if c.toNat < 16 then "0" else "1") ++
    String.ofList (Nat.toDigits 16 (c.toNat % 16))

/-- The characters of a text, escaped, after `acc`. -/
def escape (acc s : String) : String :=
  s.toList.foldl (fun acc c => if 0x20 ≤ c.toNat && c != '"' && c != '\\' then acc.push c
    else acc ++ escapeChar c) acc

/-- A JSON string. -/
def stringText (s : String) : String := (escape "\"" s).push '"'

/-- The text of a number. -/
def numberText : Number → String
  | .int n => Decimal.signText (n < 0) ++ Decimal.digitText n.natAbs
  | .float x => Decimal.jsonNumber x

mutual

/-- The compact text of a value. -/
def render : Json → String
  | .null => "null"
  | .bool true => "true"
  | .bool false => "false"
  | .number n => numberText n
  | .string s => stringText s
  | .array elements => "[" ++ renderElements elements ++ "]"
  | .object members => "\x7b" ++ renderMembers members ++ "\x7d"

/-- The elements of an array, with commas between them. -/
def renderElements : List Json → String
  | [] => ""
  | [v] => render v
  | v :: w :: rest => render v ++ "," ++ renderElements (w :: rest)

/-- The members of an object, with commas between them. -/
def renderMembers : List (String × Json) → String
  | [] => ""
  | [(name, v)] => stringText name ++ ":" ++ render v
  | (name, v) :: m :: rest => stringText name ++ ":" ++ render v ++ "," ++ renderMembers (m :: rest)

end

end TripClient.Json
