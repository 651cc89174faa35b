import TripClient.Json.Printer
import TripClient.Json.Record
import TripClient.Text.Quoted
import TripClient.Travel.Id

/-!
# Profiles

A user as the others see them.
-/

namespace TripClient

/-- The profile of a user. -/
structure Profile where
  id : UserId
  username : String
  displayName : Option String
  email : Option String
  avatarUrl : Option String
  bio : Option String
  deriving DecidableEq

namespace Profile

/-- The fields of a profile. -/
def shape : Json.Shape Profile :=
  Profile.mk
    <$> Json.Shape.ofField (.required "id" Id.decoder)
    <*> Json.Shape.ofField (.required "username" .text)
    <*> Json.Shape.ofField (.optional "display_name" .text ["full_name", "name"])
    <*> Json.Shape.ofField (.optional "email" .text)
    <*> Json.Shape.ofField (.optional "avatar_url" .text ["avatar"])
    <*> Json.Shape.ofField (.optional "bio" .text)

/-- How a profile is read. -/
def decoder : Json.Decoder Profile := shape.decode "UserProfile"

/-- A profile as JSON. -/
def toJson (p : Profile) : Json :=
  .ofMembers [
    ("id", p.id.toJson),
    ("username", .string p.username),
    ("display_name", .ofText? p.displayName),
    ("email", .ofText? p.email),
    ("avatar_url", .ofText? p.avatarUrl),
    ("bio", .ofText? p.bio)]

/-- What a user is called: the display name, or else the user name. -/
def label (p : Profile) : String :=
  match p.displayName with
  | some name => if Text.isBlankText name then p.username else name
  | none => p.username

/-- A profile in messages. -/
def summary (p : Profile) : String :=
  "UserProfile \x7b id: UserId(" ++ Text.quoted p.id.text ++ "), username: " ++
    Text.quoted p.username ++ ", display_name: " ++ Text.quoted? p.displayName ++ ", email: " ++
    Text.quoted? p.email ++ ", avatar_url: " ++ Text.quoted? p.avatarUrl ++ ", bio: " ++
    Text.quoted? p.bio ++ " \x7d"

end Profile

/-- Changes to the own profile; what is absent stays. -/
structure ProfileChange where
  displayName : Option String
  email : Option String
  bio : Option String

/-- The members that have a text. -/
def Json.given (members : List (String × Option String)) : List (String × Json) :=
  members.filterMap fun (name, value) => value.map fun s => (name, .string s)

/-- The body that asks for changes to the own profile. -/
def ProfileChange.toJson (c : ProfileChange) : Json :=
  .object (Json.given [("full_name", c.displayName), ("email", c.email), ("bio", c.bio)])

end TripClient
