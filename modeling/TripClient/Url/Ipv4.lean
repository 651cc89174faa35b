import TripClient.Decimal.Layout
import TripClient.Text.CodeRanges
import TripClient.Text.Pieces

/-!
# Addresses of four bytes

An address is a number below `2^32`. It is written as its four bytes, in base ten with points
between them. It can be read from fewer parts, of which the last stands for all bytes that are
left; a part may be in base ten, or in base sixteen behind `0x`, or in base eight behind `0`.
-/

namespace TripClient.Url.Ipv4

/-- The number that digits write in a base up to sixteen, if all of them are digits of it. -/
def number? (base : Nat) (cs : List Char) : Option Nat :=
  cs.foldlM (fun n c => do
    let d ← Text.hexDigit? c
    if d < base then some (n * base + d) else none) 0

/-- The number of one part. -/
def part? : List Char → Option Nat
  | [] => none
  | '0' :: 'x' :: cs => number? 16 cs
  | '0' :: 'X' :: cs => number? 16 cs
  | '0' :: c :: cs => number? 8 (c :: cs)
  | cs => number? 10 cs

/-- The parts of a text between points, where a point may end the text. -/
def parts (cs : List Char) : List (List Char) :=
  let ps := Text.pieces (· == '.') cs
  if ps.getLast? == some [] then ps.dropLast else ps

/-- Whether the last part of a name is a number, so that the name has to be an address. -/
def endsInNumber (cs : List Char) : Bool :=
  match (parts cs).getLast? with
  | none => false
  | some last => (!last.isEmpty && last.all Char.isDigit) || (part? last).isSome

/-- The address that numbers write: each but the last is a byte, and the last fills the rest. -/
def ofNumbers? (count value : Nat) : List Nat → Option Nat
  | [] => none
  | [n] =>
    let room := Nat.pow 256 (4 - count)
    if n < room then some (value * room + n) else none
  | n :: m :: rest =>
    if n < 256 ∧ count < 3 then ofNumbers? (count + 1) (value * 256 + n) (m :: rest) else none

/-- Reads an address. -/
def ofChars? (cs : List Char) : Option Nat := do
  ofNumbers? 0 0 (← (parts cs).mapM part?)

/-- Writes an address. -/
def toChars (address : Nat) : List Char :=
  Text.join '.' ([16777216, 65536, 256, 1].map fun unit =>
    (Decimal.digitText (address / unit % 256)).toList)

end TripClient.Url.Ipv4
