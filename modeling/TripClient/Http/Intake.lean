import TripClient.Http.Error
import TripClient.Settings

/-!
# Taking in a body

The body of a response arrives in chunks. It is taken in until it would be larger than is allowed;
if its length is declared beforehand, that is looked at first. A chunk that would be too much is left
out as a whole.
-/

namespace TripClient.Http

/-- What has been taken in of a body, and how much it may be. -/
structure Intake where
  cap : Nat
  held : List UInt8
  deriving DecidableEq

namespace Intake

/-- A size as it is counted: the greatest number that there is stands for all that are greater. -/
def counted (size : Nat) : Nat := min size Settings.maxWord

/-- Refuses a size that is too much. -/
def checkSize (cap size : Nat) : Except Error Unit :=
  if cap < counted size then .error (.responseTooLarge (counted size) cap) else .ok ()

/-- Nothing has been taken in yet. -/
def empty (cap : Nat) : Intake := ⟨cap, []⟩

/-- Takes in a chunk, unless that would be too much. Gives what is held afterwards, and the error if
the chunk was left out. -/
def push (chunk : List UInt8) (i : Intake) : Intake × Except Error Unit :=
  match checkSize i.cap (i.held.length + chunk.length) with
  | .error e => (i, .error e)
  | .ok () => ({ i with held := i.held ++ chunk }, .ok ())

/-- Takes in chunks, up to the first that would be too much. -/
def pushAll : List (List UInt8) → Intake → Intake × Except Error Unit
  | [], i => (i, .ok ())
  | chunk :: rest, i =>
    match i.push chunk with
    | (i', .ok ()) => i'.pushAll rest
    | (i', .error e) => (i', .error e)

/-- Refuses a declared length that is too much. -/
def checkDeclared (cap : Nat) : Option Nat → Except Error Unit
  | some size => checkSize cap size
  | none => .ok ()

/-- The body that the chunks are, if it is not too much. -/
def read (cap : Nat) (declared : Option Nat) (chunks : List (List UInt8)) :
    Except Error (List UInt8) := do
  checkDeclared cap declared
  match (empty cap).pushAll chunks with
  | (i, .ok ()) => return i.held
  | (_, .error e) => throw e

end Intake

end TripClient.Http
