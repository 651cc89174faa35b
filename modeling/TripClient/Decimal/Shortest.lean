/-!
# The shortest decimal of a binary number

A finite positive binary number is `m · 2^q`. The numbers nearer to it than to its neighbours form
an interval, and a decimal in that interval reads back as the number. The shortest decimal is the
one with the fewest digits; among those the nearest. For each count of digits only the two
neighbours of the value on that decimal grid can qualify, so both are tried, in exact arithmetic.
-/

namespace TripClient.Decimal

/-- Which of two neighbours an exact tie goes to. -/
inductive Tie where
  | even
  | up
  deriving DecidableEq

/-- A finite magnitude `mantissa · 2^exponent`; `narrow` when the neighbour below is only half as
far away as the one above. -/
structure Magnitude where
  mantissa : Nat
  exponent : Int
  narrow : Bool

/-- What a floating-point number is. -/
inductive Parts where
  | nan
  | infinite (negative : Bool)
  | finite (negative : Bool) (value : Magnitude)

/-- Takes a floating-point number apart. -/
def parts (x : Float) : Parts :=
  let bits : Nat := x.toBits.toNat
  let negative := bits / Nat.pow 2 63 == 1
  let field : Nat := bits / Nat.pow 2 52 % Nat.pow 2 11
  let fraction : Nat := bits % Nat.pow 2 52
  if field == 2047 then if fraction == 0 then .infinite negative else .nan
  else if field == 0 then .finite negative ⟨fraction, -1074, false⟩
  else .finite negative ⟨fraction + Nat.pow 2 52, (field : Int) - 1075, fraction == 0 && field != 1⟩

/-- Decimal digits `digits · 10^exponent`. -/
structure Digits where
  digits : Nat
  exponent : Int

/-- The numerator and the denominator of `base^exponent`. -/
def power (base : Nat) (exponent : Int) : Nat × Nat :=
  if 0 ≤ exponent then (Nat.pow base exponent.toNat, 1)
  else (1, Nat.pow base (-exponent).toNat)

/-- How many decimal digits a number has; none for zero. -/
def digitCount (n : Nat) : Nat := if n == 0 then 0 else (Nat.toDigits 10 n).length

/-- The exponent of the leading digit of `v`: `10^e ≤ v < 10^(e+1)`. -/
def leadingExponent (v : Magnitude) : Int :=
  let (n, d) := power 2 v.exponent
  (digitCount (v.mantissa * n * Nat.pow 10 324 / d) : Int) - 325

/-- The decimal with `count` digits that reads back as `v`, if there is one. -/
def withDigits? (tie : Tie) (v : Magnitude) (count : Nat) : Option Digits :=
  let grid := leadingExponent v - count + 1
  -- all quantities below are multiples of 2^(exponent - 2), brought to a common denominator
  let (n2, d2) := power 2 (v.exponent - 2)
  let (n10, d10) := power 10 grid
  let scale := n2 * d10
  let value := 4 * v.mantissa * scale
  let low := (4 * v.mantissa - if v.narrow then 1 else 2) * scale
  let high := (4 * v.mantissa + 2) * scale
  let unit := n10 * d2
  let closed := v.mantissa % 2 == 0
  let inside (d : Nat) : Bool :=
    if closed then low ≤ d * unit && d * unit ≤ high else low < d * unit && d * unit < high
  let below := value / unit
  let above := below + 1
  let toBelow := value - below * unit
  let toAbove := above * unit - value
  let preferBelow := toBelow < toAbove || (toBelow == toAbove && tie == .even && below % 2 == 0)
  if inside below && (preferBelow || !inside above) then some ⟨below, grid⟩
  else if inside above then some ⟨above, grid⟩
  else none

/-- The decimal with the fewest digits that reads back as `v`, trying counts from `count` on. -/
def shortestFrom (tie : Tie) (v : Magnitude) : (tries count : Nat) → Digits
  | 0, _ => ⟨0, 0⟩
  | tries + 1, count =>
    match withDigits? tie v count with
    | some d => d
    | none => shortestFrom tie v tries (count + 1)

/-- The decimal with the fewest digits that reads back as `v`, and the nearest of those. Seventeen
digits are always enough. -/
def shortest (tie : Tie) (v : Magnitude) : Digits :=
  if v.mantissa == 0 then ⟨0, 0⟩ else shortestFrom tie v 17 1

/-- `n / d` rounded to the nearest whole number, a tie to the even one. -/
def roundDiv (n d : Nat) : Nat :=
  let q := n / d
  let r := n % d
  if 2 * r < d then q else if 2 * r > d then q + 1 else if q % 2 == 0 then q else q + 1

/-- `v · 10^places` rounded to a whole number, a tie to the even one. -/
def scaled (places : Nat) (v : Magnitude) : Nat :=
  let (n, d) := power 2 v.exponent
  roundDiv (v.mantissa * n * Nat.pow 10 places) d

end TripClient.Decimal
