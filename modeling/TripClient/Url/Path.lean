import TripClient.Url.Basic

/-!
# Paths

A path is followed segment by segment. A segment of one dot stays where it is, one of two dots goes
up, and any other goes down; a path that ends with such dots ends with an empty segment. A segment
that names a drive is never left again. `append` goes on from a path by a segment whose text is
meant, not written.
-/

namespace TripClient.Url.Path

/-- How many dots a segment consists of, escaped or not, if it holds nothing else. -/
def dots? : List Char → Option Nat
  | [] => some 0
  | '.' :: rest => (dots? rest).map (· + 1)
  | '%' :: '2' :: 'e' :: rest => (dots? rest).map (· + 1)
  | '%' :: '2' :: 'E' :: rest => (dots? rest).map (· + 1)
  | _ => none

/-- Whether a segment names a drive. -/
def isDrive : List Char → Bool
  | [a, b] => a.isAlpha && (b == ':' || b == '|')
  | a :: b :: c :: _ => a.isAlpha && (b == ':' || b == '|') && c == '\\'
  | _ => false

/-- The segments one level up. -/
def up (done : List (List Char)) : List (List Char) :=
  match done.getLast? with
  | some s => if isDrive s then done else done.dropLast
  | none => done

/-- Follows a path on from the segments `done`. -/
def follow (done : List (List Char)) : List (List Char) → List (List Char)
  | [] => done
  | [s] =>
    match dots? s with
    | some 1 => done ++ [[]]
    | some 2 => up done ++ [[]]
    | _ => done ++ [s]
  | s :: t :: rest =>
    match dots? s with
    | some 1 => follow done (t :: rest)
    | some 2 => follow (up done) (t :: rest)
    | _ => follow (done ++ [s]) (t :: rest)

/-- The segments that a text writes behind its first slash. -/
def ofChars (isSlash : Char → Bool) (cs : List Char) : List (List Char) :=
  follow [] ((Text.pieces isSlash cs).map (Percent.encode Percent.inPath))

/-- The segments without an empty one at their end; the path `/` stays as it is. -/
def withoutEnd (ss : List (List Char)) : List (List Char) :=
  if ss.length ≤ 1 then ss else if ss.getLast? == some [] then ss.dropLast else ss

/-- The segments with an empty one at their end. -/
def withEnd (ss : List (List Char)) : List (List Char) :=
  if ss.getLast? == some [] then ss else ss ++ [[]]

/-- Goes on by one segment, whose text is given as it is meant, from the path `/` or from behind the
last segment. Dots go nowhere. Tabs and ends of lines do not count, and what is left of a segment
without them is followed. -/
def append (ss : List (List Char)) (s : String) : List (List Char) :=
  if s == "." || s == ".." then ss
  else
    follow (if ss == [[]] then [] else ss)
      [Percent.encode Percent.inSegment
        (s.toList.filter fun c => c != '\t' && c != '\n' && c != '\r')]

end TripClient.Url.Path
