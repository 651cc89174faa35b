import TripClient.Failure.Basic
import TripClient.Task

/-!
# Caches

A cache holds values by their keys, up to a capacity. When it is full, a new key takes the place of
the one that was used least recently. Entries stand in the order of their last use, the latest first.
-/

namespace TripClient

/-- A bounded store of values by their keys. -/
structure Cache (κ ν : Type) where
  capacity : Nat
  /-- The entries, the most recently used first. -/
  entries : List (κ × ν)

namespace Cache

variable {κ ν : Type} [BEq κ]

/-- An empty cache; it has room for at least one entry. -/
def empty (capacity : Nat) : Cache κ ν := ⟨max 1 capacity, []⟩

/-- How many entries there are. -/
def size (c : Cache κ ν) : Nat := c.entries.length

/-- The value of a key, without counting as a use. -/
def peek? (key : κ) (c : Cache κ ν) : Option ν := c.entries.lookup key

/-- Whether a key has a value. -/
def contains (key : κ) (c : Cache κ ν) : Bool := (c.peek? key).isSome

/-- The entries of all other keys. -/
def others (key : κ) (c : Cache κ ν) : List (κ × ν) := c.entries.filter fun e => !(e.1 == key)

/-- The value of a key, and the cache after this use of it. -/
def get (key : κ) (c : Cache κ ν) : Cache κ ν × Option ν :=
  match c.peek? key with
  | some v => ({ c with entries := (key, v) :: c.others key }, some v)
  | none => (c, none)

/-- Gives a key a value. -/
def insert (key : κ) (value : ν) (c : Cache κ ν) : Cache κ ν :=
  { c with entries := ((key, value) :: c.others key).take c.capacity }

/-- Drops a key. -/
def erase (key : κ) (c : Cache κ ν) : Cache κ ν := { c with entries := c.others key }

/-- Drops everything. -/
def clear (c : Cache κ ν) : Cache κ ν := { c with entries := [] }

/-- The value of a key: the one in the cache, unless a new one is asked for, or what `fetch` gives,
which is then kept. The cache is a part of the state. -/
def getOrFetch {S Q : Type} {A : Q → Type} (get' : S → Cache κ ν)
    (set : Cache κ ν → S → S) (key : κ) (force : Bool) (fetch : Task S Q A (Outcome ν)) :
    Task S Q A (Outcome ν) := do
  let known ← if force then pure none
    else Task.atomic fun s =>
      let (c, v) := (get' s).get key
      (set c s, v)
  match known with
  | some v => return .ok v
  | none =>
    match ← fetch with
    | .error f => return .error f
    | .ok v => do
      Task.change fun s => set ((get' s).insert key v) s
      return .ok v

end Cache

end TripClient
