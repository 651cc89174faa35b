import TripClient.Decimal.Layout
import TripClient.Text.CodeRanges
import TripClient.Text.Pieces

/-!
# Addresses of eight groups

An address is eight numbers below `2^16`. It is written in base sixteen with colons between the
groups, and two colons stand for the longest run of at least two zeros. When it is read, two colons
may stand for any run of zeros, and four bytes in base ten for the last two groups.
-/

namespace TripClient.Url.Ipv6

/-- A group: one to four digits in base sixteen. -/
def group? (cs : List Char) : Option Nat :=
  if cs.isEmpty || 4 < cs.length then none
  else cs.foldlM (fun n c => do return n * 16 + (← Text.hexDigit? c)) 0

/-- A byte in base ten, without leading zeros. -/
def byte? (cs : List Char) : Option Nat :=
  if cs.isEmpty || !cs.all Char.isDigit || 3 < cs.length || (cs.head? == some '0' && cs.length != 1)
  then none
  else
    let n := cs.foldl (fun n c => n * 10 + (c.toNat - '0'.toNat)) 0
    if n < 256 then some n else none

/-- The groups of the last piece, which may be four bytes instead. -/
def lastGroups? (cs : List Char) : Option (List Nat) :=
  if cs.contains '.' then do
    match ← (Text.pieces (· == '.') cs).mapM byte? with
    | [a, b, c, d] => some [a * 256 + b, c * 256 + d]
    | _ => none
  else (group? cs).map ([·])

/-- The groups of pieces, of which the last may be four bytes if `mayEnd` says so. -/
def groupsOf? (mayEnd : Bool) : List (List Char) → Option (List Nat)
  | [] => some []
  | [p] => if mayEnd then lastGroups? p else (group? p).map ([·])
  | p :: q :: ps => do return (← group? p) :: (← groupsOf? mayEnd (q :: ps))

/-- The groups of a text between colons; none if it is empty. -/
def groups? (mayEnd : Bool) (cs : List Char) : Option (List Nat) :=
  if cs.isEmpty then some [] else groupsOf? mayEnd (Text.pieces (· == ':') cs)

/-- What stands before and behind the first two colons in a row. -/
def cutAtGap : List Char → List Char × Option (List Char)
  | ':' :: ':' :: cs => ([], some cs)
  | [] => ([], none)
  | c :: cs =>
    let (before, behind) := cutAtGap cs
    (c :: before, behind)

/-- Reads an address. -/
def ofChars? (cs : List Char) : Option (List Nat) :=
  match cutAtGap cs with
  | (cs, none) => do
    let gs ← groups? true cs
    if gs.length = 8 then some gs else none
  | (before, some behind) => do
    let left ← groups? false before
    let right ← groups? true behind
    let count := left.length + right.length
    if count ≤ 7 then some (left ++ List.replicate (8 - count) 0 ++ right) else none

/-- How many zeros stand at the start. -/
def zerosAt (gs : List Nat) : Nat := (gs.takeWhile (· == 0)).length

/-- Where the first of the longest runs of zeros starts, and how long it is; `index` counts the
groups before. -/
def longestRun (index : Nat) : List Nat → Nat × Nat
  | [] => (index, 0)
  | g :: gs =>
    let here := zerosAt (g :: gs)
    let (start, length) := longestRun (index + 1) gs
    if length ≤ here then (index, here) else (start, length)

/-- Groups with colons between them. -/
def groupsText (gs : List Nat) : List Char := Text.join ':' (gs.map fun g => Nat.toDigits 16 g)

/-- Writes an address. -/
def toChars (gs : List Nat) : List Char :=
  let (start, length) := longestRun 0 gs
  if length < 2 then groupsText gs
  else groupsText (gs.take start) ++ [':', ':'] ++ groupsText (gs.drop (start + length))

end TripClient.Url.Ipv6
