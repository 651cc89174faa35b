import TripClient.Json.Decoder

/-!
# Reading records

A record is read from an object, by the names of its fields, or from an array, by their order. A
field has one name and any number of other accepted spellings; members with other names are passed
over. A field may be absent if it has a value for that case. A `Shape` lists the fields in order
and says how the record is put together from them; shapes are written with `<$>` and `<*>`.
-/

namespace TripClient.Json

/-- One field of a record, of type `α`. -/
structure Field (α : Type) where
  name : String
  spellings : List String
  decode : Decoder α
  /-- The value when an object does not mention the field; without one it must. -/
  absent : Option α
  /-- Whether an array may end before the field. -/
  mayEndBefore : Bool

namespace Field

/-- A field that has to be there. -/
def required {α : Type} (name : String) (d : Decoder α) (spellings : List String := []) : Field α :=
  ⟨name, spellings, d, none, false⟩

/-- A field that has the value `a` when it is absent. -/
def withDefault {α : Type} (name : String) (d : Decoder α) (a : α) (spellings : List String := []) :
    Field α :=
  ⟨name, spellings, d, some a, true⟩

/-- A field that may be absent or `null`. -/
def optional {α : Type} (name : String) (d : Decoder α) (spellings : List String := []) :
    Field (Option α) :=
  .withDefault name (.option d) none spellings

/-- A field that may be absent or `null`, except that an array has to mention it. -/
def nullable {α : Type} (name : String) (d : Decoder α) : Field (Option α) :=
  ⟨name, [], .option d, some none, false⟩

end Field

/-- What is asked of one field, whatever its type. -/
structure Rule where
  name : String
  spellings : List String
  check : Node → Except Problem Unit
  mayEndBefore : Bool

/-- Whether a member of that name is the field. -/
def Rule.accepts (r : Rule) (name : String) : Bool := r.name == name || r.spellings.contains name

/-- The fields of a record of type `α`, and how it is put together from the values they got. -/
structure Shape (α : Type) where
  rules : List Rule
  build : (String → Option Node) → Except Problem α

namespace Shape

/-- The shape of a single field. -/
def ofField {α : Type} (f : Field α) : Shape α where
  rules := [⟨f.name, f.spellings, fun n => (f.decode n).map fun _ => (), f.mayEndBefore⟩]
  build given :=
    match given f.name, f.absent with
    | some n, _ => f.decode n
    | none, some a => .ok a
    | none, none => .error (.ofCause (.missingField f.name))

instance {α : Type} : Coe (Field α) (Shape α) := ⟨ofField⟩

instance : Functor Shape where
  map f s := ⟨s.rules, fun given => f <$> s.build given⟩

instance : Seq Shape where
  seq f s := ⟨f.rules ++ (s ()).rules, fun given => do return (← f.build given) (← (s ()).build given)⟩

/-- The fields that members give, and the place behind the object. -/
def byName (rules : List Rule) (given : List (String × Node)) :
    Members → Except Problem (List (String × Node) × Place)
  | .done stop => .ok (given, stop)
  | .member key v rest => do
    let name ← key.name
    match rules.find? (·.accepts name) with
    | none => do
      Decoder.skip v
      byName rules given rest
    | some r =>
      if (given.lookup r.name).isSome then .error ⟨.duplicateField r.name, key.reach⟩
      else match r.check v with
        | .error p => .error (p.settle rest.reach)
        | .ok () => byName rules ((r.name, v) :: given) rest
  | .nameOnly key fault => do
    let name ← key.name
    match rules.find? (·.accepts name) with
    | none => .error fault.onRead
    | some r =>
      if (given.lookup r.name).isSome then .error ⟨.duplicateField r.name, key.reach⟩
      else .error fault.onRead
  | .broken fault _ _ => .error fault.onRead
  | .cut => .error (.ofCause .valueCutShort)

/-- The fields that elements give in order; `index` counts those before, `expected` describes the
whole record. -/
def byOrder (expected : String) (index : Nat) (given : List (String × Node)) :
    List Rule → Items → Except Problem (List (String × Node) × Items)
  | [], rest => .ok (given, rest)
  | r :: rules, .item _ v rest =>
    match r.check v with
    | .error p => .error (p.settle rest.reach)
    | .ok () => byOrder expected (index + 1) ((r.name, v) :: given) rules rest
  | r :: rules, .done stop =>
    if r.mayEndBefore then byOrder expected (index + 1) given rules (.done stop)
    else .error ⟨.invalidLength index expected, stop⟩
  | _ :: _, .broken fault _ _ => .error fault.onRead
  | _ :: _, .cut => .error (.ofCause .valueCutShort)

/-- Reads a record, which messages call by `name`. -/
def decode {α : Type} (name : String) (s : Shape α) : Decoder α
  | .object _ enter _ ms => do
    enter
    let (given, stop) ← byName s.rules [] ms
    (s.build fun field => given.lookup field).mapError (.settle stop)
  | .array start enter elements => do
    enter
    let count := s.rules.length
    let unit := if count == 1 then "element" else "elements"
    let expected := s!"struct {name} with {count} {unit}"
    let (given, rest) ← byOrder expected 0 [] s.rules elements
    let a ← s.build fun field => given.lookup field
    if start = .nowhere then
      match rest with
      | .item _ _ _ =>
        .error (.ofCause (.invalidLength elements.length "fewer elements in array"))
      | _ => return a
    else
      rest.expectEnd
      return a
  | n => .error (n.mismatch s!"struct {name}")

end Shape

end TripClient.Json
