import TripClient.Json.Basic
import TripClient.Session.Basic

/-!
# Tokens in answers

The server writes tokens under one of two names each, and either directly in its answer or under
`tokens` or `data`.
-/

namespace TripClient.Tokens

/-- The text under the first of the names that has one, unless it is empty. -/
def textUnder? (names : List String) (v : Json) : Option String :=
  (names.findSome? fun name => (v.get? name).bind Json.text?).filter (· ≠ "")

/-- The token to make requests with, and the one to get the next two with, if it is there too. -/
def here? (v : Json) : Option (String × Option String) := do
  let access ← textUnder? ["access", "access_token"] v
  return (access, textUnder? ["refresh", "refresh_token"] v)

/-- The places of an answer in which tokens may be. -/
def places (v : Json) : List Json := v :: (["tokens", "data"].filterMap fun name => v.get? name)

/-- The tokens in an answer: those of the first place that has a token to make requests with. -/
def find? (v : Json) : Option (String × Option String) := (places v).findSome? here?

end TripClient.Tokens
