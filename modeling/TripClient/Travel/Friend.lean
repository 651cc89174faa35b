import TripClient.Travel.Profile

/-!
# Friend requests

One user asks another to be friends; the other accepts or rejects.
-/

namespace TripClient

/-- What became of a friend request. -/
inductive FriendRequestStatus where
  | pending
  | accepted
  | rejected
  /-- Anything this library has no name for. -/
  | unknown
  deriving DecidableEq

namespace FriendRequestStatus

/-- The name of a status. -/
def name : FriendRequestStatus → String
  | .pending => "pending"
  | .accepted => "accepted"
  | .rejected => "rejected"
  | .unknown => "unknown"

/-- The status of that name. -/
def ofName (name : String) : FriendRequestStatus :=
  if name == "pending" then .pending
  else if name == "accepted" then .accepted
  else if name == "rejected" then .rejected
  else .unknown

/-- How a status is read: any name will do. -/
def decoder : Json.Decoder FriendRequestStatus := .choice fun name => .ok (ofName name)

/-- A status as JSON. -/
def toJson (s : FriendRequestStatus) : Json := .string s.name

end FriendRequestStatus

/-- The wish of a user to be friends with another. -/
structure FriendRequest where
  id : FriendRequestId
  sender : Profile
  receiver : Option Profile
  status : FriendRequestStatus
  createdAt : Option String
  deriving DecidableEq

namespace FriendRequest

/-- The fields of a friend request. -/
def shape : Json.Shape FriendRequest :=
  FriendRequest.mk
    <$> Json.Shape.ofField (.required "id" Id.decoder)
    <*> Json.Shape.ofField (.required "from_user" Profile.decoder ["sender", "requester"])
    <*> Json.Shape.ofField (.optional "to_user" Profile.decoder ["receiver", "recipient"])
    <*> Json.Shape.ofField (.withDefault "status" FriendRequestStatus.decoder .pending)
    <*> Json.Shape.ofField (.optional "created_at" .text)

/-- How a friend request is read. -/
def decoder : Json.Decoder FriendRequest := shape.decode "FriendRequest"

/-- A friend request as JSON. -/
def toJson (r : FriendRequest) : Json :=
  .ofMembers [
    ("id", r.id.toJson),
    ("from_user", r.sender.toJson),
    ("to_user", match r.receiver with | some p => p.toJson | none => .null),
    ("status", r.status.toJson),
    ("created_at", .ofText? r.createdAt)]

end FriendRequest

end TripClient
