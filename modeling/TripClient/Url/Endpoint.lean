import TripClient.Url.Path

/-!
# Endpoints

All requests of a client go to endpoints below one base URL, which has neither query nor fragment and
whose path ends with a slash. An endpoint is addressed by segments, which are meant as they are and
may hold any characters, and by named values.
-/

namespace TripClient.Url

/-- A URL without query and fragment, whose path ends with a slash. -/
def asBase (u : Url) : Url :=
  { u with
    path := match u.path with
      | .segments ss => .segments (Path.withEnd ss)
      | p => p
    query := none
    fragment := none }

/-- The segments of a path. -/
def Path.toSegments : Path → List (List Char)
  | .segments ss => ss
  | .text _ => []

/-- The path of `base`, then the segments, then a slash; and behind it the named values, if there are
any. -/
def endpoint (base : Url) (segments : List String) (query : List (String × String)) : Url :=
  { base with
    path := .segments
      (Path.append (segments.foldl Path.append (Path.withoutEnd base.path.toSegments)) "")
    query := if query.isEmpty then base.query else some (Query.ofPairs query) }

end TripClient.Url
