import TripClient.Travel.Profile

/-!
# Groups

A group of travellers.
-/

namespace TripClient

/-- A group of travellers. -/
structure Group where
  id : GroupId
  name : String
  description : Option String
  coverUrl : Option String
  memberCount : Option Nat
  isMember : Bool
  owner : Option Profile
  createdAt : Option String
  deriving DecidableEq

namespace Group

/-- The fields of a group. -/
def shape : Json.Shape Group :=
  Group.mk
    <$> Json.Shape.ofField (.required "id" Id.decoder)
    <*> Json.Shape.ofField (.required "name" .text)
    <*> Json.Shape.ofField (.optional "description" .text)
    <*> Json.Shape.ofField (.optional "cover_url" .text ["cover_image", "image"])
    <*> Json.Shape.ofField (.optional "member_count" .count ["members_count"])
    <*> Json.Shape.ofField (.withDefault "is_member" .bool false)
    <*> Json.Shape.ofField (.optional "owner" Profile.decoder)
    <*> Json.Shape.ofField (.optional "created_at" .text)

/-- How a group is read. -/
def decoder : Json.Decoder Group := shape.decode "Group"

/-- A group as JSON. -/
def toJson (g : Group) : Json :=
  .ofMembers [
    ("id", g.id.toJson),
    ("name", .string g.name),
    ("description", .ofText? g.description),
    ("cover_url", .ofText? g.coverUrl),
    ("member_count", match g.memberCount with | some n => .ofNat n | none => .null),
    ("is_member", .bool g.isMember),
    ("owner", match g.owner with | some p => p.toJson | none => .null),
    ("created_at", .ofText? g.createdAt)]

end Group

/-- What is said of a group when it is created or changed; what is absent is left open. -/
structure GroupDraft where
  name : Option String
  description : Option String
  isPublic : Option Bool

/-- The body that creates or changes a group. -/
def GroupDraft.toJson (d : GroupDraft) : Json :=
  .object (Json.given [("name", d.name), ("description", d.description)] ++
    match d.isPublic with
    | some b => [("is_public", .bool b)]
    | none => [])

end TripClient
