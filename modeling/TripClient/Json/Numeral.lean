import TripClient.Json.Cursor

/-!
# Numerals

A numeral is the text of a number: sign, whole digits, fraction, exponent. Its value is a whole
number if it has neither fraction nor exponent and fits; else it is a floating-point number: as many
of the digits as fit into 64 bits, then one multiplication or division by a power of ten.
-/

namespace TripClient.Json

/-- The parts of a number's text. -/
structure Numeral where
  negative : Bool
  whole : List Nat
  /-- The digits behind the point; none when there is no point. -/
  fraction : List Nat
  /-- Whether the exponent is negative, and its digits with the places behind them. -/
  exponent : Option (Bool × List (Nat × Place))
  /-- Behind the numeral. -/
  stop : Place

namespace Numeral

/-- The fault of a numeral that goes on with something else than it must, or not at all. -/
def fault (c : Cursor) (p : Place) : Fault :=
  ⟨⟨if c.rest.isEmpty then .valueCutShort else .badNumber, p⟩, ⟨.badNumber, p⟩⟩

/-- Reads the exponent behind its letter. -/
def scanExponent (c : Cursor) : Except Fault (Bool × List (Nat × Place) × Cursor) :=
  let (negative, c) := match c.rest with
    | b :: _ => if b == 0x2D then (true, c.advance) else if b == 0x2B then (false, c.advance) else (false, c)
    | [] => (false, c)
  match c.digits with
  | ([], _) => .error (fault c c.peek)
  | (ds, c') => .ok (negative, ds, c')

/-- Reads a numeral, which starts with a digit or a minus sign. -/
def scan (c : Cursor) : Except Fault (Numeral × Cursor) :=
  let negative := c.rest.head? == some 0x2D
  let c := if negative then c.advance else c
  match c.digits with
  | ([], _) => .error (fault c c.peek)
  | ((first, p) :: more, after) =>
    if first == 0 && !more.isEmpty then
      .error (.both .badNumber ⟨p.line, p.column + 1⟩)
    else do
      let whole := first :: more.map (·.1)
      let (fraction, c) ← match after.rest with
        | b :: _ =>
          if b == 0x2E then
            match after.advance.digits with
            | ([], _) => .error (fault after.advance after.advance.peek)
            | (ds, c) => .ok (ds.map (·.1), c)
          else .ok ([], after)
        | [] => .ok ([], after)
      match c.rest with
      | b :: _ =>
        if b == 0x65 || b == 0x45 then do
          let (negativeExponent, ds, c) ← scanExponent c.advance
          .ok (⟨negative, whole, fraction, some (negativeExponent, ds), c.place⟩, c)
        else .ok (⟨negative, whole, fraction, none, c.place⟩, c)
      | [] => .ok (⟨negative, whole, fraction, none, c.place⟩, c)

/-- The greatest significand. -/
def maxSignificand : Nat := Nat.pow 2 64 - 1

/-- Takes digits into the significand while they fit; gives the significand, how many were taken,
and how many were not. -/
def gather (significand taken : Nat) : List Nat → Nat × Nat × Nat
  | [] => (significand, taken, 0)
  | d :: ds =>
    if significand * 10 + d ≤ maxSignificand then gather (significand * 10 + d) (taken + 1) ds
    else (significand, taken, ds.length + 1)

/-- The floating-point number `10^n`. -/
def tenTo (n : Nat) : Float := Float.ofScientific 1 false n

/-- Divides by `10^308` as long as the exponent asks for more than one division. -/
def lowered : (fuel : Nat) → Float → (exponent : Nat) → Float
  | 0, f, _ => f
  | fuel + 1, f, exponent =>
    if exponent ≤ 308 then f / tenTo exponent
    else if f == 0 then f
    else lowered fuel (f / tenTo 308) (exponent - 308)

/-- `significand · 10^exponent`, or nothing if that is out of range. -/
def floatOf? (significand : Nat) (exponent : Int) : Option Float :=
  let f := significand.toUInt64.toFloat
  if exponent < 0 then some (lowered 5 f (-exponent).toNat)
  else if exponent ≤ 308 then
    let g := f * tenTo exponent.toNat
    if g.isInf then none else some g
  else if f == 0 then some f
  else none

/-- The greatest exponent that is still counted. -/
def maxExponent : Nat := Nat.pow 2 31 - 1

/-- The exponent its digits write, or the place behind the digit with which it grows too large. -/
def exponentOf (exponent : Nat) : List (Nat × Place) → Except Place Nat
  | [] => .ok exponent
  | (d, p) :: ds =>
    if exponent * 10 + d ≤ maxExponent then exponentOf (exponent * 10 + d) ds else .error p

/-- A floating-point number with a sign. -/
def signed (negative : Bool) (f : Float) : Number := .float (if negative then -f else f)

/-- The value of a numeral. -/
def value (n : Numeral) : Except Problem Number :=
  let (significand, _, left) := gather 0 0 n.whole
  if n.fraction.isEmpty && n.exponent.isNone && left == 0 &&
      (!n.negative || (0 < significand && significand ≤ Nat.pow 2 63)) then
    .ok (.int (if n.negative then -(significand : Int) else significand))
  else
    let (significand, taken, _) := gather significand 0 n.fraction
    let shift : Int := (left : Int) - (taken : Int)
    let finish (exponent : Int) : Except Problem Number :=
      match floatOf? significand exponent with
      | some f => .ok (signed n.negative f)
      | none => .error ⟨.numberOutOfRange, n.stop⟩
    match n.exponent with
    | none => finish shift
    | some (negativeExponent, ds) =>
      match exponentOf 0 ds with
      | .ok e => finish (if negativeExponent then shift - e else shift + e)
      | .error p =>
        if significand != 0 && !negativeExponent then .error ⟨.numberOutOfRange, p⟩
        else .ok (signed n.negative 0)

end Numeral

end TripClient.Json
