import TripClient.Json.Decoder
import TripClient.Text.Blank
import TripClient.Decimal.Layout

/-!
# Ids

The server names things by numbers or by texts. Both are read as texts, so that the number 42 and
the text "42" are one id; blanks around a text do not belong to it, and no id is empty. Ids of
different kinds of things are different types.
-/

namespace TripClient

/-- The kinds of things that have ids. -/
inductive Resource where
  | user
  | group
  | plan
  | activity
  | friendRequest
  | conversation
  | message
  | location

/-- The id of a thing of some kind. -/
structure Id (resource : Resource) where
  text : String
  deriving DecidableEq

namespace Id

variable {resource : Resource}

/-- The id that a number is. -/
def ofNat (n : Nat) : Id resource := ⟨Decimal.digitText n⟩

/-- The text of a whole number. -/
def intText (n : Int) : String := Decimal.signText (n < 0) ++ Decimal.digitText n.natAbs

/-- The text that a value gives for an id, before it is looked at. -/
def rawText? : Json → Option String
  | .string s => some (Text.trim s)
  | .number (.int n) => some (intText n)
  | _ => none

/-- The id that a value is. -/
def ofJson (v : Json) : Except Json.Cause (Id resource) :=
  match rawText? v with
  | none => .error (.noVariantMatches "RawId")
  | some s => if s.isEmpty then .error .emptyId else .ok ⟨s⟩

/-- An id is a number or a text. -/
def decoder : Json.Decoder (Id resource) := fun n => do
  (ofJson (← Json.Decoder.any n)).mapError .ofCause

/-- An id is written as a text. -/
def toJson (id : Id resource) : Json := .string id.text

/-- An id or `null`. -/
def toJson? : Option (Id resource) → Json
  | none => .null
  | some id => id.toJson

end Id

abbrev UserId := Id .user
abbrev GroupId := Id .group
abbrev PlanId := Id .plan
abbrev ActivityId := Id .activity
abbrev FriendRequestId := Id .friendRequest
abbrev ConversationId := Id .conversation
abbrev MessageId := Id .message
abbrev LocationId := Id .location

end TripClient
