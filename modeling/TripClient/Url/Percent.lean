import TripClient.Text.CodeRanges
import TripClient.Text.Utf8

/-!
# Escapes in addresses

A character that may not stand in a part of an address is written by its bytes, each as a percent
sign and two digits in base sixteen. Each part has its own set of such characters; characters beyond
ASCII belong to all of them.
-/

namespace TripClient.Url.Percent

/-- Characters that are escaped in every part: controls, and all beyond ASCII. -/
def inAny (c : Char) : Bool := c.toNat < 0x20 || 0x7F ≤ c.toNat

/-- Characters that are escaped in a fragment. -/
def inFragment (c : Char) : Bool := inAny c || [' ', '"', '<', '>', '`'].contains c

/-- Characters that are escaped in a query. -/
def inQuery (c : Char) : Bool := inAny c || [' ', '"', '#', '<', '>'].contains c

/-- Characters that are escaped in the query of an address on the web. -/
def inWebQuery (c : Char) : Bool := inQuery c || c == '\''

/-- Characters that are escaped in a path. -/
def inPath (c : Char) : Bool := inFragment c || ['#', '?', '\x7b', '\x7d'].contains c

/-- Characters that are escaped in a path segment whose text is given as it is meant. -/
def inSegment (c : Char) : Bool := inPath c || ['/', '%', '\\'].contains c

/-- Characters that are escaped in a user name or a password. -/
def inUserinfo (c : Char) : Bool :=
  inPath c || ['/', ':', ';', '=', '@', '[', '\\', ']', '^', '|'].contains c

/-- The digit in base sixteen, in capitals. -/
def hexDigit (n : Nat) : Char :=
  if n < 10 then Char.ofNat ('0'.toNat + n) else Char.ofNat ('A'.toNat + (n - 10))

/-- The escape of a byte. -/
def escape (b : UInt8) : List Char := ['%', hexDigit (b.toNat / 16), hexDigit (b.toNat % 16)]

/-- The escapes of the bytes of a character. -/
def escapeChar (c : Char) : List Char := (String.utf8EncodeChar c).flatMap escape

/-- Escapes the characters of a set. -/
def encode (inSet : Char → Bool) (cs : List Char) : List Char :=
  cs.flatMap fun c => if inSet c then escapeChar c else [c]

/-- The bytes that a text with escapes stands for; a percent sign that starts no escape stands for
itself. -/
def decodeBytes : List UInt8 → List UInt8
  | [] => []
  | [b] => [b]
  | [b, c] => [b, c]
  | b :: c :: d :: rest =>
    if b == 0x25 then
      match Text.hexDigit? (Char.ofNat c.toNat), Text.hexDigit? (Char.ofNat d.toNat) with
      | some x, some y => UInt8.ofNat (x * 16 + y) :: decodeBytes rest
      | _, _ => b :: decodeBytes (c :: d :: rest)
    else b :: decodeBytes (c :: d :: rest)

/-- The text that bytes write, if they are well formed. -/
def textOf? (bytes : List UInt8) : Option (List Char) :=
  (Text.ofBytes? ⟨bytes.toArray⟩).map String.toList

/-- The text that a text with escapes stands for, if its bytes are well formed. A text without a
percent sign stands for itself. -/
def decode? (cs : List Char) : Option (List Char) :=
  if cs.contains '%' then textOf? (decodeBytes (Text.bytesOf (String.ofList cs))) else some cs

end TripClient.Url.Percent
