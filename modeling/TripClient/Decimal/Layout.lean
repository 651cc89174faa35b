import TripClient.Decimal.Shortest

/-!
# Decimal notations

Three notations are used: plain (`plain`, for messages: never an exponent), with six places
(`sixPlaces`, for coordinates in addresses) and the one of JSON texts (`jsonNumber`: always with a
point or an exponent, positional between `1e-5` and `1e16`).
-/

namespace TripClient.Decimal

/-- The digits of a number, without leading zeros. -/
def digitText (n : Nat) : String := String.ofList (Nat.toDigits 10 n)

/-- `count` zeros. -/
def zeros (count : Nat) : String := String.ofList (List.replicate count '0')

/-- Drops zeros at the end of the digits into the exponent. -/
def dropZeros : (fuel : Nat) → Digits → Digits
  | 0, d => d
  | fuel + 1, d =>
    if d.digits != 0 && d.digits % 10 == 0 then dropZeros fuel ⟨d.digits / 10, d.exponent + 1⟩ else d

/-- Digits written without an exponent; `whole` follows a number without a fraction. -/
def positional (whole : String) (d : Digits) : String :=
  let text := digitText d.digits
  if 0 ≤ d.exponent then text ++ zeros d.exponent.toNat ++ whole
  else
    let places := (-d.exponent).toNat
    if places < text.length then
      String.ofList (text.toList.take (text.length - places)) ++ "." ++
        String.ofList (text.toList.drop (text.length - places))
    else "0." ++ zeros (places - text.length) ++ text

/-- Digits written with one digit before the point and an exponent. -/
def scientific (d : Digits) : String :=
  let text := digitText d.digits
  let exponent := d.exponent + (text.length : Int) - 1
  let fraction := String.ofList (text.toList.drop 1)
  String.ofList (text.toList.take 1) ++ (if fraction.isEmpty then "" else "." ++ fraction) ++ "e" ++
    (if exponent < 0 then "-" else "+") ++ digitText exponent.natAbs

/-- The sign in front of a number. -/
def signText (negative : Bool) : String := if negative then "-" else ""

/-- Plain notation: the fewest digits that read back, never an exponent. -/
def plain (x : Float) : String :=
  match parts x with
  | .nan => "NaN"
  | .infinite negative => signText negative ++ "inf"
  | .finite negative v => signText negative ++ positional "" (dropZeros 20 (shortest .up v))

/-- Six places after the point; the exact value is rounded, a tie to the even digit. -/
def sixPlaces (x : Float) : String :=
  match parts x with
  | .nan => "NaN"
  | .infinite negative => signText negative ++ "inf"
  | .finite negative v =>
    let n := scaled 6 v
    let fraction := digitText (n % 1000000)
    signText negative ++ digitText (n / 1000000) ++ "." ++ zeros (6 - fraction.length) ++ fraction

/-- The notation of JSON texts: the fewest digits that read back, with a point or an exponent. A
number that is not finite has none. -/
def jsonNumber (x : Float) : String :=
  match parts x with
  | .nan | .infinite _ => "null"
  | .finite negative v =>
    let d := dropZeros 20 (shortest .even v)
    let leading := d.exponent + (digitText d.digits).length - 1
    signText negative ++
      (if d.digits == 0 || (-5 ≤ leading && leading < 16) then positional ".0" d else scientific d)

end TripClient.Decimal
