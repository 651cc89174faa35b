import TripClient.Json.Problem

/-!
# Reading a text byte by byte

A cursor is what is left of a text, with the place it starts at.
-/

namespace TripClient.Json

/-- What is left of a text, and the place it starts at. -/
structure Cursor where
  rest : List UInt8
  place : Place

namespace Cursor

/-- The start of a text. -/
def ofBytes (bytes : List UInt8) : Cursor := ⟨bytes, .start⟩

/-- The place behind the next byte, or the end of the text. -/
def peek (c : Cursor) : Place :=
  match c.rest with
  | [] => c.place
  | b :: _ => c.place.past b

/-- Behind the next byte. -/
def advance (c : Cursor) : Cursor :=
  match c.rest with
  | [] => c
  | b :: rest => ⟨rest, c.place.past b⟩

/-- The blanks between the parts of a JSON text. -/
def isBlank (b : UInt8) : Bool := b == 0x20 || b == 0x0A || b == 0x09 || b == 0x0D

/-- Behind the blanks at the start of `rest`. -/
def skipBlanksFrom (p : Place) : List UInt8 → Cursor
  | [] => ⟨[], p⟩
  | b :: rest => if isBlank b then skipBlanksFrom (p.past b) rest else ⟨b :: rest, p⟩

/-- Behind the blanks that come next. -/
def skipBlanks (c : Cursor) : Cursor := skipBlanksFrom c.place c.rest

/-- The digits at the start of `rest`, each with the place behind it, and what follows them. -/
def digitsFrom (p : Place) : List UInt8 → List (Nat × Place) × Cursor
  | [] => ([], ⟨[], p⟩)
  | b :: rest =>
    if 0x30 ≤ b && b ≤ 0x39 then
      let (ds, c) := digitsFrom (p.past b) rest
      ((b.toNat - 0x30, p.past b) :: ds, c)
    else ([], ⟨b :: rest, p⟩)

/-- The digits that come next, each with the place behind it, and what follows them. -/
def digits (c : Cursor) : List (Nat × Place) × Cursor := digitsFrom c.place c.rest

/-- A problem at this place. -/
def here (c : Cursor) (cause : Cause) : Problem := ⟨cause, c.place⟩

/-- A problem of the next byte. -/
def next (c : Cursor) (cause : Cause) : Problem := ⟨cause, c.peek⟩

end Cursor

end TripClient.Json
