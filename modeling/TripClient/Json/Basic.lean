import TripClient.Sorted

/-!
# JSON values

A JSON value is a tree. Whole numbers between `-2^63` and `2^64 - 1` are kept exactly
(`Number.int`); every other number is a floating-point number. The members of an object are a list;
values that were read have it in rising order of the names, each name once (`Sorted.insert`).
-/

namespace TripClient

/-- A number of a JSON value. -/
inductive Number where
  | int (n : Int)
  | float (x : Float)

/-- A JSON value. -/
inductive Json where
  | null
  | bool (b : Bool)
  | number (n : Number)
  | string (s : String)
  | array (elements : List Json)
  | object (members : List (String × Json))

instance : Inhabited Json := ⟨.null⟩

namespace Json

/-- A whole number as a value. -/
def ofNat (n : Nat) : Json := .number (.int n)

/-- A text or `null`. -/
def ofText? : Option String → Json
  | none => .null
  | some s => .string s

/-- The object with the given members; of two of the same name the later counts. -/
def ofMembers (members : List (String × Json)) : Json := .object (Sorted.ofList members)

/-- The member of that name, if the value is an object that has one. -/
def get? (name : String) : Json → Option Json
  | .object members => Sorted.get? name members
  | _ => none

/-- The text of a string value. -/
def text? : Json → Option String
  | .string s => some s
  | _ => none

/-- The whole number of a number value, if it is one and not negative. -/
def nat? : Json → Option Nat
  | .number (.int n) => if 0 ≤ n then some n.toNat else none
  | _ => none

/-- What kind of value it is, in the words of messages. -/
def kind : Json → String
  | .null => "null"
  | .bool _ => "a boolean"
  | .number _ => "a number"
  | .string _ => "a string"
  | .array _ => "an array"
  | .object _ => "an object"

end Json

end TripClient
