/-!
# Text as bytes

A text counts by its length in UTF-8, so cuts are made at character boundaries (`takeBytes`), and
bytes are a text only if they are well formed (`illFormedAt?` finds the first that is not).
-/

namespace TripClient.Text

/-- The longest part at the start of `cs` that fits into `budget` bytes. -/
def takeBytes (budget : Nat) : List Char → List Char
  | [] => []
  | c :: cs => if c.utf8Size ≤ budget then c :: takeBytes (budget - c.utf8Size) cs else []

/-- A text cut to at most `budget` bytes, at the last character boundary. -/
def truncate (budget : Nat) (s : String) : String :=
  if s.utf8ByteSize ≤ budget then s else String.ofList (takeBytes budget s.toList)

/-- The bytes of a text. -/
def bytesOf (s : String) : List UInt8 := s.toUTF8.toList

/-- A byte that continues a character. -/
def isTail (b : UInt8) : Bool := 0x80 ≤ b && b ≤ 0xBF

/-- How many bytes the well-formed character at the start of `bs` takes, if there is one. -/
def charWidth? : List UInt8 → Option Nat
  | [] => none
  | a :: bs =>
    if a < 0x80 then some 1
    else if a < 0xC2 then none
    else if a < 0xE0 then
      match bs with
      | b :: _ => if isTail b then some 2 else none
      | _ => none
    else if a < 0xF0 then
      match bs with
      | b :: c :: _ =>
        if isTail b && isTail c && (a != 0xE0 || 0xA0 ≤ b) && (a != 0xED || b ≤ 0x9F)
        then some 3 else none
      | _ => none
    else if a < 0xF5 then
      match bs with
      | b :: c :: d :: _ =>
        if isTail b && isTail c && isTail d && (a != 0xF0 || 0x90 ≤ b) && (a != 0xF4 || b ≤ 0x8F)
        then some 4 else none
      | _ => none
    else none

/-- Where the first byte stands at which no well-formed character starts. `skip` counts the bytes
that still belong to the character before. -/
def illFormedAt? (index skip : Nat) : List UInt8 → Option Nat
  | [] => none
  | b :: bs =>
    match skip with
    | k + 1 => illFormedAt? (index + 1) k bs
    | 0 =>
      match charWidth? (b :: bs) with
      | none => some index
      | some w => illFormedAt? (index + 1) (w - 1) bs

/-- The text that bytes write, if they are well formed. -/
def ofBytes? (bs : ByteArray) : Option String := String.fromUTF8? bs

/-- Blank in the sense of ASCII: a space, a tab, a form feed, or an end of line. -/
def isAsciiBlank (b : UInt8) : Bool :=
  b == 0x20 || b == 0x09 || b == 0x0A || b == 0x0C || b == 0x0D

end TripClient.Text
