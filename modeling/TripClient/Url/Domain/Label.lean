import TripClient.Text.Composition
import TripClient.Url.Domain.Classes
import TripClient.Url.Domain.Mapping
import TripClient.Url.Domain.Punycode

/-!
# Labels of domain names

A domain name consists of labels with points between them. A label that holds other characters than
ASCII has an ASCII form, which starts with `xn--`. A label that starts so is accepted only if it can be
read, and what it says has to be as well formed (`isWellFormed`) as a label that is given in its own
characters: composed, of characters that stand for themselves, with no mark at its start, and with
joiners only where they show. The work is bounded: behind `xn--` no more than `maxCode` characters are
read, and no more than `maxSaid` are well formed; so a label can have an ASCII form that is not read.
-/

namespace TripClient.Url.Domain

open Punycode (isAscii)

/-- The class of the marks that suppress a vowel. -/
def viramaClass : Nat := 9

/-- Whether a vowel is suppressed right before; `before` has the nearest character first. -/
def followsVirama (before : List Char) : Bool :=
  (before.head?.map fun c => Text.combiningClass c.toNat == viramaClass).getD false

/-- Whether letters on both sides would join here. -/
def betweenJoining (before rest : List Char) : Bool :=
  ((before.dropWhile isTransparent).head?.map joinsNext).getD false &&
    ((rest.dropWhile isTransparent).head?.map joinsPrevious).getD false

/-- Whether a joiner and its opposite stand only where they make a difference; `before` has the
characters before, the nearest first. -/
def joinersShow (before : List Char) : List Char → Bool
  | [] => true
  | c :: rest =>
    (if c == '\u200d' then followsVirama before
      else if c == '\u200c' then followsVirama before || betweenJoining before rest
      else true) && joinersShow (c :: before) rest

/-- The greatest number of characters of a label that are not all ASCII. -/
def maxSaid : Nat := 1000

/-- The greatest number of characters behind `xn--`. -/
def maxCode : Nat := 2000

/-- Whether characters are what the ASCII form of a label may say. -/
def isWellFormed (cs : List Char) : Bool :=
  !cs.all isAscii && cs.length ≤ maxSaid && cs.all (fun c => replace? c == some [c]) &&
    Text.compose cs == cs && !(cs.head?.map isMark).getD false && joinersShow [] cs

/-- A label in its ASCII form, with the characters that it says. -/
structure Label where
  ascii : List Char
  said : List Char

namespace Label

/-- The label of some characters, which have been replaced and composed. -/
def ofChars? (cs : List Char) : Option Label :=
  match cs with
  | 'x' :: 'n' :: '-' :: '-' :: code =>
    if maxCode < code.length then none
    else do
      let said ← Punycode.decode? code
      if isWellFormed said then some ⟨cs, said⟩ else none
  | _ =>
    if cs.all isAscii then some ⟨cs, cs⟩
    else if isWellFormed cs then some ⟨['x', 'n', '-', '-'] ++ Punycode.encode cs, cs⟩
    else none

/-- Whether a label holds a character that is written from right to left. None of ASCII is. -/
def hasRight (l : Label) : Bool :=
  l.said.any fun c => !isAscii c && (direction c == .right || direction c == .arabicDigit)

/-- The directions of the characters up to the last that is no mark. -/
def directions (l : Label) : List Direction :=
  ((l.said.map direction).reverse.dropWhile (· == .mark)).reverse

/-- Whether a label shows the same among labels written in the other direction: its first character
gives the direction, no other goes against it, and it ends with a letter or a digit. -/
def keepsDirection (l : Label) : Bool :=
  let ds := l.directions
  match ds.head? with
  | none => l.said.isEmpty
  | some .right =>
    ds.all (· != .left) && !(ds.contains .digit && ds.contains .arabicDigit) &&
      (ds.getLast? == some .right || ds.getLast? == some .digit ||
        ds.getLast? == some .arabicDigit)
  | some .left =>
    ds.all (fun d => d != .right && d != .arabicDigit) &&
      (ds.getLast? == some .left || ds.getLast? == some .digit)
  | some _ => false

end Label

end TripClient.Url.Domain
