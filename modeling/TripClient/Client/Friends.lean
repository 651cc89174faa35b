import TripClient.Client.Exchange
import TripClient.Travel.Friend

/-!
# Friends

Friends, and the requests that lead to them.
-/

namespace TripClient.Api

open Client

/-- The friends of whoever is signed in. -/
def friends (api : Api) : Work (List Profile) :=
  api.list Profile.decoder ["friends"] [] "friends"

/-- The requests that are open. -/
def friendRequests (api : Api) : Work (List FriendRequest) :=
  api.list FriendRequest.decoder ["friends", "requests"] [] "requests"

/-- Asks a user to become a friend. -/
def befriend (api : Api) (user : UserId) : Work FriendRequest :=
  api.send FriendRequest.decoder .post ["friends", "requests"]
    (.object [("to_user", user.toJson)]) "request"

/-- Accepts a request. -/
def acceptFriend (api : Api) (id : FriendRequestId) : Work Unit :=
  api.order .post ["friends", "requests", id.text, "accept"]

/-- Rejects a request. -/
def rejectFriend (api : Api) (id : FriendRequestId) : Work Unit :=
  api.order .post ["friends", "requests", id.text, "reject"]

/-- Ends a friendship. -/
def removeFriend (api : Api) (user : UserId) : Work Unit :=
  api.order .delete ["friends", user.text]

end TripClient.Api
