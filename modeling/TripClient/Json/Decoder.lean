import TripClient.Json.Document

/-!
# Reading typed values

A decoder takes a typed value out of a document or says what stands in the way. A decoder of a
composite visits the parts in the order of the document, so that the first problem is the one
reported. A problem without a place of its own gets the place its composite has reached.
-/

namespace TripClient.Json

/-- A way to read a value of type `α` out of a document. -/
abbrev Decoder (α : Type) := Node → Except Problem α

namespace Node

/-- The problem of finding this value where something else is expected. -/
def mismatch (expected : String) : Node → Problem
  | .null span => ⟨.invalidType .null expected, span.stop⟩
  | .bool b span => ⟨.invalidType (.bool b) expected, span.stop⟩
  | .number (.ok n) span => ⟨.invalidType (.number n) expected, span.stop⟩
  | .number (.error p) _ => p
  | .string (.ok s) span => ⟨.invalidType (.string s) expected, span.stop⟩
  | .string (.error p) _ => p
  | .array start _ _ => ⟨.invalidType .sequence expected, start⟩
  | .object start _ _ _ => ⟨.invalidType .map expected, start⟩
  | .broken fault _ => fault.onRead

end Node

namespace Decoder

/-- A text. -/
def text : Decoder String
  | .string value _ => value
  | n => .error (n.mismatch "a string")

/-- A truth value. -/
def bool : Decoder Bool
  | .bool b _ => .ok b
  | n => .error (n.mismatch "a boolean")

/-- Nothing but `null`. -/
def unit : Decoder Unit
  | .null _ => .ok ()
  | n => .error (n.mismatch "unit")

/-- A whole number from zero to `max`, which messages call a `typeName`. -/
def natUpTo (max : Nat) (typeName : String) : Decoder Nat
  | .number (.ok (.int n)) span =>
    if 0 ≤ n ∧ n ≤ (max : Int) then .ok n.toNat
    else .error ⟨.invalidValue (.number (.int n)) typeName, span.stop⟩
  | n => .error (n.mismatch typeName)

/-- A count: a whole number of 32 bits. -/
def count : Decoder Nat := natUpTo 4294967295 "u32"

/-- A floating-point number; a whole number is rounded to the nearest one. -/
def float : Decoder Float
  | .number (.ok (.float x)) _ => .ok x
  | .number (.ok (.int n)) _ => .ok (Float.ofInt n)
  | n => .error (n.mismatch "f64")

/-- `null`, or a value of type `α`. -/
def option {α : Type} (d : Decoder α) : Decoder (Option α)
  | .null _ => .ok none
  | n => some <$> d n

/-- The elements of an array from here on. -/
def items {α : Type} (d : Decoder α) : Items → Except Problem (List α)
  | .done _ => .ok []
  | .item _ v rest =>
    match d v with
    | .error p => .error (p.settle rest.reach)
    | .ok a => (a :: ·) <$> items d rest
  | .broken fault _ _ => .error fault.onRead
  | .cut => .error (.ofCause .valueCutShort)

/-- A list of values of type `α`. -/
def list {α : Type} (d : Decoder α) : Decoder (List α)
  | .array _ enter elements => do enter; items d elements
  | n => .error (n.mismatch "a sequence")

/-- The members of an object from here on, in their order. -/
def members {α : Type} (d : Decoder α) : Members → Except Problem (List (String × α))
  | .done _ => .ok []
  | .member key v rest =>
    match key.name with
    | .error p => .error p
    | .ok name =>
      match d v with
      | .error p => .error (p.settle rest.reach)
      | .ok a => ((name, a) :: ·) <$> members d rest
  | .nameOnly key fault =>
    match key.name with
    | .error p => .error p
    | .ok _ => .error fault.onRead
  | .broken fault _ _ => .error fault.onRead
  | .cut => .error (.ofCause .valueCutShort)

/-- An object with any names and values of one type, as pairs in their order. -/
def pairs {α : Type} (d : Decoder α) : Decoder (List (String × α))
  | .object _ enter _ ms => do enter; members d ms
  | n => .error (n.mismatch "a map")

mutual

/-- Any value. -/
def any : Node → Except Problem Json
  | .null _ => .ok .null
  | .bool b _ => .ok (.bool b)
  | .number value _ => .number <$> value
  | .string value _ => .string <$> value
  | .array _ enter elements => do enter; return .array (← anyItems elements)
  | .object _ enter _ ms => do enter; return .ofMembers (← anyMembers ms)
  | .broken fault _ => .error fault.onRead

/-- Any elements. -/
def anyItems : Items → Except Problem (List Json)
  | .done _ => .ok []
  | .item _ v rest => do return (← any v) :: (← anyItems rest)
  | .broken fault _ _ => .error fault.onRead
  | .cut => .error (.ofCause .valueCutShort)

/-- Any members. -/
def anyMembers : Members → Except Problem (List (String × Json))
  | .done _ => .ok []
  | .member key v rest => do return (← key.name, ← any v) :: (← anyMembers rest)
  | .nameOnly key fault => do let _ ← key.name; .error fault.onRead
  | .broken fault _ _ => .error fault.onRead
  | .cut => .error (.ofCause .valueCutShort)

end

mutual

/-- Passes over any value. What a string says, how large a number is and how deep the value goes do
not matter then. -/
def skip : Node → Except Problem Unit
  | .array _ _ elements => skipItems elements
  | .object _ _ _ ms => skipMembers ms
  | .broken fault _ => .error fault.onSkip
  | _ => .ok ()

/-- Passes over elements. -/
def skipItems : Items → Except Problem Unit
  | .done _ => .ok ()
  | .item _ v rest => do skip v; skipItems rest
  | .broken fault _ _ => .error fault.onSkip
  | .cut => .error (.ofCause .valueCutShort)

/-- Passes over members. -/
def skipMembers : Members → Except Problem Unit
  | .done _ => .ok ()
  | .member _ v rest => do skip v; skipMembers rest
  | .nameOnly _ fault => .error fault.onSkip
  | .broken fault _ _ => .error fault.onSkip
  | .cut => .error (.ofCause .valueCutShort)

end

/-- One of several names: a string, or an object whose only member has that name and `null`. The
function `read` knows the names. -/
def choice {α : Type} (read : String → Except Cause α) : Decoder α
  | .string (.ok name) span => (read name).mapError fun c => ⟨c, span.stop⟩
  | .string (.error p) _ => .error p
  | .object start enter head ms => do
    enter
    if start = .nowhere then
      match ms with
      | .member key v (.done _) => do
        let a ← (read (← key.name)).mapError .ofCause
        unit v
        return a
      | _ => .error (.ofCause (.invalidValue .map "map with a single key"))
    else
      let a ← match head with
        | .string (.ok name) span => (read name).mapError fun c => ⟨c, span.stop⟩
        | other => .error (other.mismatch "variant identifier")
      match ms with
      | .member _ v rest => do
        unit v
        match rest with
        | .done _ => return a
        | .broken _ true reach => .error ⟨.objectCutShort, reach⟩
        | rest => .error ⟨.valueExpected, rest.reach⟩
      | .nameOnly _ fault => .error fault.onRead
      | .broken fault _ _ => .error fault.onRead
      | _ => .error ⟨.valueExpected, start⟩
  | .broken _ asName => .error asName
  | .null span => wrong span .null
  | .bool b span => wrong span (.bool b)
  | .number (.ok n) span => wrong span (.number n)
  | .number (.error _) span => wrong span .null
  | .array start _ _ => wrong ⟨start, start⟩ .sequence
where
  wrong (span : Span) (found : Found) : Except Problem α :=
    if span.start = .nowhere then .error (.ofCause (.invalidType found "string or map"))
    else .error ⟨.valueExpected, ⟨span.start.line, span.start.column + 1⟩⟩

/-- Reads a typed value out of a whole text. -/
def ofDocument {α : Type} (d : Decoder α) (document : Document) : Except Problem α := do
  let a ← d document.root
  document.trailing
  return a

/-- Reads a typed value out of a value. -/
def ofJson {α : Type} (d : Decoder α) (v : Json) : Except Problem α := d (.ofJson v)

end Decoder

end TripClient.Json
