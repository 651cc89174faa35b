import TripClient.Failure.Basic

/-!
# Lists in answers

Servers wrap a list in several ways: a bare array, an object with the list under a name of its own,
under one of the general names, or any of these one level down. A listing is the bare list with the
details that stood next to it. A page is a listing with its elements read; those that cannot be
read are left out and counted.
-/

namespace TripClient

/-- A list as the server sent it, with the details that stood next to it. -/
structure Listing where
  items : List Json
  count : Option Nat
  next : Option String
  previous : Option String

namespace Listing

/-- The names under which any list may stand. -/
def generalNames : List String := ["results", "data", "items"]

/-- The names under which a list is looked for, in order. -/
def names (name? : Option String) : List String := name?.toList ++ generalNames

/-- A list without details. -/
def bare (items : List Json) : Listing := ⟨items, none, none, none⟩

/-- The details of an object, next to a list. -/
def beside (members : List (String × Json)) (items : List Json) : Listing where
  items
  count := (Sorted.get? "count" members).bind Json.nat?
  next := (Sorted.get? "next" members).bind Json.text?
  previous := (Sorted.get? "previous" members).bind Json.text?

/-- Takes from `outer` the details that `inner` lacks. -/
def inside (outer inner : Listing) : Listing where
  items := inner.items
  count := inner.count.or outer.count
  next := inner.next.or outer.next
  previous := inner.previous.or outer.previous

/-- The failure to find a list. -/
def missing (name? : Option String) : Failure :=
  .decode <| match name? with
  | some name => s!"no '{name}' or generic list key in response"
  | none => "no list key in response"

/-- The list under one name, unless something else stands there. -/
def at? (members : List (String × Json)) (name : String) : Option Listing :=
  match Sorted.get? name members with
  | some (.array items) => some (beside members items)
  | some .null => some (beside members [])
  | _ => none

/-- The list in an object, where the objects in it do not count. -/
def ofMembers (name? : Option String) (members : List (String × Json)) : Outcome Listing :=
  match (names name?).findSome? (at? members) with
  | some l => .ok l
  | none => .error (missing name?)

/-- The list under one name, or in the object that stands there. -/
def atOrWithin? (name? : Option String) (members : List (String × Json)) (name : String) :
    Option (Outcome Listing) :=
  match Sorted.get? name members with
  | some (.object inner) => some ((ofMembers name? inner).map (inside (beside members [])))
  | _ => (at? members name).map .ok

/-- The list in an answer; `name?` is the name under which this kind of list may stand. -/
def ofJson (name? : Option String) : Json → Outcome Listing
  | .null => .ok (bare [])
  | .array items => .ok (bare items)
  | .object members =>
    ((names name?).findSome? (atOrWithin? name? members)).getD (.error (missing name?))
  | other => .error (.decode s!"expected a list payload, got {other.kind}")

end Listing

/-- A list of elements of a type, with what the server said of the whole. -/
structure Page (α : Type) where
  items : List α
  count : Option Nat
  next : Option String
  previous : Option String
  /-- How many elements could not be read. -/
  skipped : Nat

namespace Page

variable {α : Type}

/-- The page with nothing on it. -/
def empty : Page α := ⟨[], none, none, none, 0⟩

/-- Whether the server has more. -/
def hasMore (p : Page α) : Bool := p.next.isSome

/-- Reads the elements of a listing. -/
def ofListing (d : Json.Decoder α) (l : Listing) : Page α where
  items := l.items.filterMap fun v => (d.ofJson v).toOption
  count := l.count
  next := l.next
  previous := l.previous
  skipped := l.items.countP fun v => (d.ofJson v).toOption.isNone

/-- The page in an answer. -/
def ofJson (d : Json.Decoder α) (name? : Option String) (v : Json) : Outcome (Page α) :=
  return .ofListing d (← Listing.ofJson name? v)

/-- A page as JSON. -/
def toJson (item : α → Json) (p : Page α) : Json :=
  .ofMembers [
    ("items", .array (p.items.map item)),
    ("count", match p.count with | some n => .ofNat n | none => .null),
    ("next", .ofText? p.next),
    ("previous", .ofText? p.previous),
    ("skipped", .ofNat p.skipped)]

end Page

namespace Answer

variable {α : Type}

/-- The elements in an answer. -/
def list (d : Json.Decoder α) (name? : Option String) (v : Json) : Outcome (List α) :=
  return (← Page.ofJson d name? v).items

/-- The object that is wrapped in an answer under its own name or as `data`, or else the answer. -/
def unwrap (name? : Option String) (v : Json) : Json :=
  ((name?.toList ++ ["data"]).findSome? fun name =>
    match v.get? name with
    | some (.object inner) => some (.object inner)
    | _ => none).getD v

/-- The single thing in an answer. -/
def item (d : Json.Decoder α) (name? : Option String) (v : Json) : Outcome α :=
  (d.ofJson (unwrap name? v)).mapError fun p => .decode s!"unexpected response shape: {p.message}"

end Answer

end TripClient
