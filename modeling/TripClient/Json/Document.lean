import TripClient.Json.Problem

/-!
# Documents

A document is a JSON text as far as it can be followed: the tree of its values with their places,
up to the first fault. Who reads a typed value out of a document visits it in the order of the
text, and so meets the first problem of either kind, of the text or of a type, first. A value that
was never a text is a document without places (`Node.ofJson`).
-/

namespace TripClient.Json

/-- The name of a member. -/
structure Key where
  /-- The name, or what is wrong with it as a text. -/
  name : Except Problem String
  /-- Behind the name. -/
  behind : Place
  /-- How far one gets who looks for the end of the object right behind the name. -/
  reach : Place
  /-- How far one gets who looks for the end of the object before this member. -/
  before : Place

/-- The stretch of a text from the place before its first byte to the place behind its last. -/
structure Span where
  start : Place
  stop : Place

/-- The stretch of what never stood in a text. -/
def Span.nowhere : Span := ⟨.nowhere, .nowhere⟩

mutual

/-- One value of a document. -/
inductive Node where
  | null (span : Span)
  | bool (b : Bool) (span : Span)
  | number (value : Except Problem Number) (span : Span)
  | string (value : Except Problem String) (span : Span)
  | array (start : Place) (enter : Except Problem Unit) (items : Items)
  /-- The value at the head is what stands first between the braces, taken for a value. -/
  | object (start : Place) (enter : Except Problem Unit) (head : Node) (members : Members)
  /-- No value stands here; `asName` is the problem of who looks for a name or an object. -/
  | broken (fault : Fault) (asName : Problem)

/-- The elements of an array. -/
inductive Items where
  | done (stop : Place)
  | item (start : Place) (value : Node) (rest : Items)
  /-- Here stands neither an element nor the end; `surplus` is the problem of who expects the end,
  who gets as far as `reach`. -/
  | broken (fault : Fault) (surplus : Problem) (reach : Place)
  /-- The element before has no end. -/
  | cut

/-- The members of an object. -/
inductive Members where
  | done (stop : Place)
  | member (key : Key) (value : Node) (rest : Members)
  /-- A name that no colon follows. -/
  | nameOnly (key : Key) (fault : Fault)
  /-- Here stands neither a member nor the end; `ended` when the text ends here. -/
  | broken (fault : Fault) (ended : Bool) (reach : Place)
  /-- The value before has no end. -/
  | cut

end

/-- A whole text: its value, and the problem of whatever follows it. -/
structure Document where
  root : Node
  trailing : Except Problem Unit

namespace Items

/-- How far one gets who looks for the end of the array here. -/
def reach : Items → Place
  | .done stop => stop
  | .item start _ _ => start
  | .broken _ _ reach => reach
  | .cut => .nowhere

/-- The problem of who expects the end of the array here. -/
def expectEnd : Items → Except Problem Unit
  | .done _ => .ok ()
  | .item start _ _ => .error ⟨.trailingCharacters, ⟨start.line, start.column + 1⟩⟩
  | .broken _ surplus _ => .error surplus
  | .cut => .error (.ofCause .valueCutShort)

/-- How many elements there are. -/
def length : Items → Nat
  | .item _ _ rest => rest.length + 1
  | _ => 0

end Items

namespace Members

/-- How far one gets who looks for the end of the object here. -/
def reach : Members → Place
  | .done stop => stop
  | .member key _ _ => key.before
  | .nameOnly key _ => key.before
  | .broken _ _ reach => reach
  | .cut => .nowhere

/-- How many members there are. -/
def length : Members → Nat
  | .member _ _ rest => rest.length + 1
  | _ => 0

end Members

mutual

/-- A value as a document without places. -/
def Node.ofJson : Json → Node
  | .null => .null .nowhere
  | .bool b => .bool b .nowhere
  | .number n => .number (.ok n) .nowhere
  | .string s => .string (.ok s) .nowhere
  | .array elements => .array .nowhere (.ok ()) (Items.ofElements elements)
  | .object members => .object .nowhere (.ok ()) (.null .nowhere) (Members.ofMembers members)

/-- Elements without places. -/
def Items.ofElements : List Json → Items
  | [] => .done .nowhere
  | v :: rest => .item .nowhere (Node.ofJson v) (Items.ofElements rest)

/-- Members without places. -/
def Members.ofMembers : List (String × Json) → Members
  | [] => .done .nowhere
  | (name, v) :: rest =>
    .member ⟨.ok name, .nowhere, .nowhere, .nowhere⟩ (Node.ofJson v) (Members.ofMembers rest)

end

end TripClient.Json
