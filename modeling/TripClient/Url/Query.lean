import TripClient.Text.Pieces
import TripClient.Url.Percent

/-!
# Queries of named values

A query that holds named values joins the pairs by `&` and a name to its value by `=`. A blank is
written as `+`, and every character but letters, figures and `*-._` by its bytes, so that no text can
add a pair or change one.
-/

namespace TripClient.Url.Query

/-- Characters that stand for themselves. -/
def isPlain (c : Char) : Bool := c.isAlphanum || ['*', '-', '.', '_'].contains c

/-- Writes a name or a value. -/
def encode (s : String) : List Char :=
  s.toList.flatMap fun c =>
    if c == ' ' then ['+'] else if isPlain c then [c] else Percent.escapeChar c

/-- Writes one pair. -/
def encodePair (p : String × String) : List Char := encode p.1 ++ '=' :: encode p.2

/-- Writes pairs. -/
def ofPairs (pairs : List (String × String)) : List Char := Text.join '&' (pairs.map encodePair)

/-- Reads a name or a value. -/
def decode? (cs : List Char) : Option String :=
  let blanks := cs.map fun c => if c == '+' then ' ' else c
  (Percent.decode? blanks).map String.ofList

/-- Reads one pair; a pair without `=` has an empty value. -/
def decodePair? (cs : List Char) : Option (String × String) := do
  let (name, value) := Text.cut (· == '=') cs
  return (← decode? name, ← decode? (value.getD []))

/-- Reads pairs; nothing between two `&` is no pair. -/
def toPairs? (cs : List Char) : Option (List (String × String)) :=
  ((Text.pieces (· == '&') cs).filter (!·.isEmpty)).mapM decodePair?

end TripClient.Url.Query
