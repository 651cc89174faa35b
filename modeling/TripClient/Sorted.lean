/-!
# Pairs in rising order of their names

The members of a value that was read, and the context of a failure, are pairs in rising order of
their names, each name once. A pair put in replaces the one of its name.
-/

namespace TripClient.Sorted

/-- Puts a pair into a list that rises by name, in place of the one of that name. -/
def insert {α : Type} (name : String) (value : α) : List (String × α) → List (String × α)
  | [] => [(name, value)]
  | (n, v) :: rest =>
    if name < n then (name, value) :: (n, v) :: rest
    else if name == n then (name, value) :: rest
    else (n, v) :: insert name value rest

/-- Pairs in rising order of their names; of two of one name the later counts. -/
def ofList {α : Type} (pairs : List (String × α)) : List (String × α) :=
  pairs.foldl (fun sorted p => insert p.1 p.2 sorted) []

/-- The value under a name. -/
def get? {α : Type} (name : String) (pairs : List (String × α)) : Option α := pairs.lookup name

end TripClient.Sorted
