import TripClient.Decimal.Layout
import TripClient.Json.Basic
import TripClient.Text.Quoted

/-!
# What can be wrong with JSON

A problem has a cause and a place. Causes are either faults of the text itself or a mismatch
between a value and the type that was expected of it. A value that was never a text has no place.
-/

namespace TripClient.Json

/-- A place in a text: the line, counted from one, and how many bytes of it come before. -/
structure Place where
  line : Nat
  column : Nat
  deriving DecidableEq

namespace Place

/-- The place of what never stood in a text. -/
def nowhere : Place := ⟨0, 0⟩

/-- Where a text starts. -/
def start : Place := ⟨1, 0⟩

/-- The place behind a byte. -/
def past (b : UInt8) (p : Place) : Place :=
  if b == 0x0A then ⟨p.line + 1, 0⟩ else ⟨p.line, p.column + 1⟩

end Place

/-- What was found where something else was expected. -/
inductive Found where
  | null
  | bool (b : Bool)
  | number (n : Number)
  | string (s : String)
  | sequence
  | map

/-- Why a text is no JSON, or a value is not of the expected type. -/
inductive Cause where
  | listCutShort
  | objectCutShort
  | stringCutShort
  | valueCutShort
  | colonExpected
  | commaOrBracketExpected
  | commaOrBraceExpected
  | wordExpected
  | valueExpected
  | badEscape
  | badNumber
  | numberOutOfRange
  | illFormedText
  | controlCharacter
  | keyNotString
  | loneSurrogate
  | surrogateCutShort
  | trailingComma
  | trailingCharacters
  | tooDeep
  | invalidType (found : Found) (expected : String)
  | invalidValue (found : Found) (expected : String)
  | invalidLength (length : Nat) (expected : String)
  | missingField (name : String)
  | duplicateField (name : String)
  | unknownVariant (name : String) (variants : List String)
  | noVariantMatches (union : String)
  | emptyId

/-- What was found, in the words of messages. -/
def Found.message : Found → String
  | .null => "null"
  | .bool b => s!"boolean `{b}`"
  | .number (.int n) => s!"integer `{n}`"
  | .number (.float x) => s!"floating point `{Decimal.jsonNumber x}`"
  | .string s => s!"string {Text.quoted s}"
  | .sequence => "sequence"
  | .map => "map"

/-- The names of a choice: one, two, or a list. -/
def oneOf : List String → String
  | [] => "there are no variants"
  | [a] => s!"expected `{a}`"
  | [a, b] => s!"expected `{a}` or `{b}`"
  | names => "expected one of " ++ ", ".intercalate (names.map fun n => s!"`{n}`")

/-- A cause in words. -/
def Cause.message : Cause → String
  | .listCutShort => "EOF while parsing a list"
  | .objectCutShort => "EOF while parsing an object"
  | .stringCutShort => "EOF while parsing a string"
  | .valueCutShort => "EOF while parsing a value"
  | .colonExpected => "expected `:`"
  | .commaOrBracketExpected => "expected `,` or `]`"
  | .commaOrBraceExpected => "expected `,` or `\x7d`"
  | .wordExpected => "expected ident"
  | .valueExpected => "expected value"
  | .badEscape => "invalid escape"
  | .badNumber => "invalid number"
  | .numberOutOfRange => "number out of range"
  | .illFormedText => "invalid unicode code point"
  | .controlCharacter => "control character (\\u0000-\\u001F) found while parsing a string"
  | .keyNotString => "key must be a string"
  | .loneSurrogate => "lone leading surrogate in hex escape"
  | .surrogateCutShort => "unexpected end of hex escape"
  | .trailingComma => "trailing comma"
  | .trailingCharacters => "trailing characters"
  | .tooDeep => "recursion limit exceeded"
  | .invalidType found expected => s!"invalid type: {found.message}, expected {expected}"
  | .invalidValue found expected => s!"invalid value: {found.message}, expected {expected}"
  | .invalidLength length expected => s!"invalid length {length}, expected {expected}"
  | .missingField name => s!"missing field `{name}`"
  | .duplicateField name => s!"duplicate field `{name}`"
  | .unknownVariant name variants => s!"unknown variant `{name}`, {oneOf variants}"
  | .noVariantMatches union => s!"data did not match any variant of untagged enum {union}"
  | .emptyId => "id cannot be empty"

/-- A cause and where it showed. -/
structure Problem where
  cause : Cause
  place : Place

namespace Problem

/-- A problem of a value, before its place is known. -/
def ofCause (cause : Cause) : Problem := ⟨cause, .nowhere⟩

/-- Gives a problem the place `p`, unless it already has one. -/
def settle (p : Place) (problem : Problem) : Problem :=
  if problem.place = .nowhere then ⟨problem.cause, p⟩ else problem

/-- A problem in words; its place follows if there is one. -/
def message (problem : Problem) : String :=
  if problem.place = .nowhere then problem.cause.message
  else s!"{problem.cause.message} at line {problem.place.line} column {problem.place.column}"

end Problem

/-- The same fault as it shows to who wants the value and to who passes over it. -/
structure Fault where
  onRead : Problem
  onSkip : Problem

/-- A fault that shows alike to both. -/
def Fault.both (cause : Cause) (p : Place) : Fault := ⟨⟨cause, p⟩, ⟨cause, p⟩⟩

end TripClient.Json
