import TripClient.Json.Document
import TripClient.Json.Numeral
import TripClient.Text.Utf8

/-!
# Reading documents

`Document.ofBytes` follows a JSON text to its end or to its first fault. It never fails: faults are
leaves of the tree. A string is followed twice, once for its end alone (`skipString`) and once for
its text (`scanString`), since who passes over a string does not mind what it says.
-/

namespace TripClient.Json

/-- The number that four digits in base sixteen write. -/
def hexFour? (a b c d : UInt8) : Option Nat := do
  let digit (x : UInt8) := Text.hexDigit? (Char.ofNat x.toNat)
  return ((← digit a) * 16 + (← digit b)) * 256 + (← digit c) * 16 + (← digit d)

/-- Whether an escape is complete with this byte. -/
def isShortEscape (b : UInt8) : Bool :=
  b == 0x22 || b == 0x5C || b == 0x2F || b == 0x62 || b == 0x66 || b == 0x6E || b == 0x72 ||
    b == 0x74

/-- The byte that a short escape stands for. -/
def shortEscape (b : UInt8) : UInt8 :=
  if b == 0x62 then 0x08 else if b == 0x66 then 0x0C else if b == 0x6E then 0x0A
  else if b == 0x72 then 0x0D else if b == 0x74 then 0x09 else b

/-- The place `n` bytes on, on the same line. -/
def Place.right (p : Place) (n : Nat) : Place := ⟨p.line, p.column + n⟩

/-- The place behind all of `bs`. -/
def Place.pastAll (p : Place) (bs : List UInt8) : Place := bs.foldl (fun p b => p.past b) p

/-- Passes over a string behind its opening quote. -/
def skipString (p : Place) : List UInt8 → Except Problem Cursor
  | [] => .error ⟨.stringCutShort, p⟩
  | b :: rest =>
    if b == 0x22 then .ok ⟨rest, p.right 1⟩
    else if b == 0x5C then
      match rest with
      | [] => .error ⟨.stringCutShort, p.right 1⟩
      | e :: rest =>
        if isShortEscape e then skipString (p.right 2) rest
        else if e == 0x75 then
          match rest with
          | w :: x :: y :: z :: rest' =>
            if (hexFour? w x y z).isSome then
              skipString ((p.right 2).pastAll [w, x, y, z]) rest'
            else .error ⟨.badEscape, (p.right 2).pastAll [w, x, y, z]⟩
          | short => .error ⟨.stringCutShort, (p.right 2).pastAll short⟩
        else .error ⟨.badEscape, (p.right 1).past e⟩
    else if b < 0x20 then .error ⟨.controlCharacter, p⟩
    else skipString (p.right 1) rest

/-- The character that a pair of surrogates stands for. -/
def ofSurrogates (high low : Nat) : Char :=
  Char.ofNat ((high - 0xD800) * 0x400 + (low - 0xDC00) + 0x10000)

/-- The bytes of a character, all behind the same place. -/
def encoded (c : Char) (p : Place) : List (UInt8 × Place) :=
  (String.utf8EncodeChar c).map fun b => (b, p)

/-- Follows a string behind its opening quote: its bytes, each with the place behind it. -/
def scanString (p : Place) (acc : List (UInt8 × Place)) :
    List UInt8 → Except Problem (List (UInt8 × Place))
  | [] => .error ⟨.stringCutShort, p⟩
  | b :: rest =>
    if b == 0x22 then .ok acc.reverse
    else if b == 0x5C then
      match rest with
      | [] => .error ⟨.stringCutShort, p.right 1⟩
      | e :: rest =>
        if isShortEscape e then scanString (p.right 2) ((shortEscape e, p.right 2) :: acc) rest
        else if e == 0x75 then
          match rest with
          | w :: x :: y :: z :: rest' =>
            let q := (p.right 2).pastAll [w, x, y, z]
            match hexFour? w x y z with
            | none => .error ⟨.badEscape, q⟩
            | some n =>
              if 0xDC00 ≤ n && n ≤ 0xDFFF then .error ⟨.loneSurrogate, q⟩
              else if n < 0xD800 || 0xDBFF < n then
                scanString q ((encoded (Char.ofNat n) q).reverse ++ acc) rest'
              else
                match rest' with
                | [] => .error ⟨.stringCutShort, q⟩
                | [s] => .error (if s == 0x5C then ⟨.stringCutShort, q.right 1⟩
                    else ⟨.surrogateCutShort, q.past s⟩)
                | s :: u :: rest' =>
                  if s != 0x5C then .error ⟨.surrogateCutShort, q.past s⟩
                  else if u != 0x75 then .error ⟨.surrogateCutShort, (q.right 1).past u⟩
                  else
                    match rest' with
                    | w :: x :: y :: z :: rest' =>
                      let r := (q.right 2).pastAll [w, x, y, z]
                      match hexFour? w x y z with
                      | none => .error ⟨.badEscape, r⟩
                      | some m =>
                        if m < 0xDC00 || 0xDFFF < m then .error ⟨.loneSurrogate, r⟩
                        else scanString r ((encoded (ofSurrogates n m) r).reverse ++ acc) rest'
                    | short => .error ⟨.stringCutShort, (q.right 2).pastAll short⟩
          | short => .error ⟨.stringCutShort, (p.right 2).pastAll short⟩
        else .error ⟨.badEscape, (p.right 1).past e⟩
    else if b < 0x20 then .error ⟨.controlCharacter, p.past b⟩
    else scanString (p.right 1) ((b, p.right 1) :: acc) rest

/-- The text of a string behind its opening quote. -/
def readString (c : Cursor) : Except Problem String := do
  let bytes ← scanString c.place [] c.rest
  match Text.ofBytes? (bytes.map (·.1)).toByteArray with
  | some s => .ok s
  | none =>
    let bad := (Text.illFormedAt? 0 0 (bytes.map (·.1))).getD 0
    .error ⟨.illFormedText, ((bytes[bad]?).map (·.2)).getD c.place⟩

/-- Whether a numeral starts with this byte. -/
def startsNumeral (b : UInt8) : Bool := b == 0x2D || (0x30 ≤ b && b ≤ 0x39)

/-- Reads a word such as `null` behind its first letter. -/
def readWord (c : Cursor) : List UInt8 → Except Problem Cursor
  | [] => .ok c
  | w :: word =>
    match c.rest with
    | [] => .error (c.here .valueCutShort)
    | b :: _ => if b == w then readWord c.advance word else .error (c.next .wordExpected)

/-- How deep arrays and objects may lie in each other. -/
def maxDepth : Nat := 127

/-- Whether an array or object that starts here may be entered, below `depth` others. -/
def enter (depth : Nat) (c : Cursor) : Except Problem Unit :=
  if depth < maxDepth then .ok () else .error (c.next .tooDeep)

/-- Reads a value that is neither an array nor an object; of those only the bracket counts. -/
def readScalar (c : Cursor) : Node × Option Cursor :=
  match c.rest with
  | [] => (.broken (.both .valueCutShort c.peek) (c.next .valueCutShort), none)
  | b :: _ =>
    let word (letters : List UInt8) (node : Span → Node) : Node × Option Cursor :=
      match readWord c.advance letters with
      | .ok after => (node ⟨c.place, after.place⟩, some after)
      | .error e => (.broken ⟨e, e⟩ (c.next .valueExpected), none)
    if b == 0x6E then word [0x75, 0x6C, 0x6C] .null
    else if b == 0x74 then word [0x72, 0x75, 0x65] (.bool true)
    else if b == 0x66 then word [0x61, 0x6C, 0x73, 0x65] (.bool false)
    else if b == 0x22 then
      match skipString c.advance.place c.advance.rest with
      | .ok after => (.string (readString c.advance) ⟨c.place, after.place⟩, some after)
      | .error e =>
        match readString c.advance with
        | .ok _ => (.broken ⟨e, e⟩ e, none)
        | .error e' => (.broken ⟨e', e⟩ e', none)
    else if startsNumeral b then
      match Numeral.scan c with
      | .ok (n, after) => (.number n.value ⟨c.place, n.stop⟩, some after)
      | .error fault => (.broken fault (c.next .valueExpected), none)
    else if b == 0x5B then (.array c.place (.ok ()) .cut, none)
    else if b == 0x7B then (.object c.place (.ok ()) (.null ⟨c.place, c.place⟩) .cut, none)
    else (.broken (.both .valueExpected c.peek) (c.next .valueExpected), none)

/-- Reads the name of a member at its opening quote; `before` is as in `Key`. -/
def readKey (before : Place) (c : Cursor) : Except Fault (Key × Cursor) :=
  match skipString c.advance.place c.advance.rest with
  | .ok after =>
    let next := after.skipBlanks
    let reach := match next.rest with
      | b :: _ => if b == 0x7D then next.peek else next.place
      | [] => next.place
    .ok (⟨readString c.advance, after.place, reach, before⟩, next)
  | .error e =>
    match readString c.advance with
    | .ok _ => .error ⟨e, e⟩
    | .error e' => .error ⟨e', e⟩

mutual

/-- Reads a value; `depth` counts the arrays and objects around it. -/
def readValue : (fuel depth : Nat) → Cursor → Node × Option Cursor
  | 0, _, c => (.broken (.both .valueCutShort c.place) (c.here .valueCutShort), none)
  | fuel + 1, depth, c =>
    let c := c.skipBlanks
    match c.rest with
    | [] => readScalar c
    | b :: _ =>
      if b == 0x5B then
        let (items, after) := readItems fuel (depth + 1) true c.advance
        (.array c.place (enter depth c) items, after)
      else if b == 0x7B then
        let (head, _) := readScalar c.advance.skipBlanks
        let (members, after) := readMembers fuel (depth + 1) true c.advance
        (.object c.place (enter depth c) head members, after)
      else readScalar c

/-- Reads the elements of an array from the next one on; `first` before any of them. -/
def readItems : (fuel depth : Nat) → (first : Bool) → Cursor → Items × Option Cursor
  | 0, _, _, _ => (.cut, none)
  | fuel + 1, depth, first, c =>
    let c := c.skipBlanks
    let element (c : Cursor) : Items × Option Cursor :=
      match readValue fuel depth c with
      | (v, none) => (.item c.place v .cut, none)
      | (v, some after) =>
        let (rest, final) := readItems fuel depth false after
        (.item c.place v rest, final)
    match c.rest with
    | [] => (.broken (.both .listCutShort c.peek) (c.next .listCutShort) c.place, none)
    | b :: _ =>
      if b == 0x5D then (.done c.peek, some c.advance)
      else if first then element c
      else if b == 0x2C then
        let c := c.advance.skipBlanks
        match c.rest with
        | [] => (.broken (.both .valueCutShort c.peek) (c.next .trailingCharacters) c.place, none)
        | b :: _ =>
          if b == 0x5D then
            (.broken ⟨c.next .trailingComma, c.next .valueExpected⟩ (c.next .trailingComma) c.place,
              none)
          else element c
      else
        (.broken (.both .commaOrBracketExpected c.peek) (c.next .trailingCharacters) c.place, none)

/-- Reads the members of an object from the next one on; `first` before any of them. -/
def readMembers : (fuel depth : Nat) → (first : Bool) → Cursor → Members × Option Cursor
  | 0, _, _, _ => (.cut, none)
  | fuel + 1, depth, first, c =>
    let c := c.skipBlanks
    let member (before : Place) (c : Cursor) : Members × Option Cursor :=
      match readKey before c with
      | .error fault => (.broken fault false c.place, none)
      | .ok (key, next) =>
        match next.rest with
        | [] => (.nameOnly key (.both .objectCutShort next.peek), none)
        | b :: _ =>
          if b == 0x3A then
            match readValue fuel depth next.advance with
            | (v, none) => (.member key v .cut, none)
            | (v, some after) =>
              let (rest, final) := readMembers fuel depth false after
              (.member key v rest, final)
          else (.nameOnly key (.both .colonExpected next.peek), none)
    match c.rest with
    | [] => (.broken (.both .objectCutShort c.peek) true c.place, none)
    | b :: _ =>
      if b == 0x7D then (.done c.peek, some c.advance)
      else if first then
        if b == 0x22 then member c.place c
        else (.broken (.both .keyNotString c.peek) false c.place, none)
      else if b == 0x2C then
        let d := c.advance.skipBlanks
        match d.rest with
        | [] => (.broken ⟨d.next .valueCutShort, d.next .objectCutShort⟩ false c.place, none)
        | b :: _ =>
          if b == 0x22 then member c.place d
          else if b == 0x7D then
            (.broken ⟨d.next .trailingComma, d.next .keyNotString⟩ false c.place, none)
          else (.broken (.both .keyNotString d.peek) false c.place, none)
      else (.broken (.both .commaOrBraceExpected c.peek) false c.place, none)

end

/-- The document that bytes write. Each byte is passed at least every second step, so twice their
number is enough fuel. -/
def Document.ofBytes (bytes : List UInt8) : Document :=
  match readValue (2 * bytes.length + 2) 0 (.ofBytes bytes) with
  | (root, none) => ⟨root, .ok ()⟩
  | (root, some after) =>
    let after := after.skipBlanks
    ⟨root, if after.rest.isEmpty then .ok () else .error (after.next .trailingCharacters)⟩

end TripClient.Json
