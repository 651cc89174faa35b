import TripClient.Client.Chats
import TripClient.Client.Friends
import TripClient.Client.Groups
import TripClient.Client.Places
import TripClient.Client.Plans
import TripClient.Client.SignIn
import TripClient.Client.Users

/-!
# Operations

All that a client does for the surrounding program, as values. What an operation gives is JSON, as the
program gets it (`Operation.perform`).
-/

namespace TripClient

/-- Something that a client can be asked to do. -/
inductive Operation where
  | login (username password : String)
  | register (registration : Registration)
  | endSession
  | logout
  | clearCaches
  | currentUser
  | user (id : UserId) (force : Bool)
  | searchUsers (text : String)
  | updateProfile (change : ProfileChange)
  | uploadAvatar (image : Attachment)
  | groups
  | group (id : GroupId) (force : Bool)
  | createGroup (draft : GroupDraft)
  | updateGroup (id : GroupId) (draft : GroupDraft)
  | deleteGroup (id : GroupId)
  | joinGroup (id : GroupId)
  | leaveGroup (id : GroupId)
  | members (id : GroupId)
  | uploadCover (id : GroupId) (image : Attachment)
  | plans (group : GroupId)
  | plan (id : PlanId) (force : Bool)
  | createPlan (group : GroupId) (draft : PlanDraft)
  | updatePlan (id : PlanId) (draft : PlanDraft)
  | deletePlan (id : PlanId)
  | activities (plan : PlanId)
  | addActivity (plan : PlanId) (draft : ActivityDraft)
  | updateActivity (plan : PlanId) (id : ActivityId) (draft : ActivityDraft)
  | deleteActivity (plan : PlanId) (id : ActivityId)
  | friends
  | friendRequests
  | befriend (user : UserId)
  | acceptFriend (id : FriendRequestId)
  | rejectFriend (id : FriendRequestId)
  | removeFriend (user : UserId)
  | conversations
  | directConversation (user : UserId)
  | createConversation (title : String) (participants : List UserId)
  | messages (id : ConversationId) (page : Nat)
  | sendMessage (id : ConversationId) (text : String)
  | sendAttachment (id : ConversationId) (file : Attachment) (caption : Option String)
  | markRead (id : ConversationId)
  | searchLocations (text : String)
  | location (id : LocationId)
  | nearby (center : Coordinates) (radius : Nat)

namespace Operation

open Client

/-- A list as JSON. -/
def listJson {α : Type} (f : α → Json) (l : List α) : Json := .array (l.map f)

/-- An operation that gives nothing. -/
def nothing (_ : Unit) : Json := .null

/-- An operation that cannot fail. -/
def ofStep (t : Step Unit) : Work Json := .ofStep do
  t
  return .ok .null

/-- Carries out an operation. -/
def perform (api : Api) : Operation → Work Json
  | login username password => Profile.toJson <$> api.login username password
  | register registration => Profile.toJson <$> api.register registration
  | endSession => ofStep api.endSession
  | logout => ofStep api.logout
  | clearCaches => ofStep Api.clearCaches
  | currentUser => Profile.toJson <$> api.currentUser
  | user id force => Profile.toJson <$> api.user id force
  | searchUsers text => listJson Profile.toJson <$> api.searchUsers text
  | updateProfile change => Profile.toJson <$> api.updateProfile change
  | uploadAvatar image => Profile.toJson <$> api.uploadAvatar image
  | groups => listJson Group.toJson <$> api.groups
  | group id force => Group.toJson <$> api.group id force
  | createGroup draft => Group.toJson <$> api.createGroup draft
  | updateGroup id draft => Group.toJson <$> api.updateGroup id draft
  | deleteGroup id => nothing <$> api.deleteGroup id
  | joinGroup id => nothing <$> api.joinGroup id
  | leaveGroup id => nothing <$> api.leaveGroup id
  | members id => listJson Profile.toJson <$> api.members id
  | uploadCover id image => Group.toJson <$> api.uploadCover id image
  | plans id => listJson Plan.toJson <$> api.plans id
  | plan id force => Plan.toJson <$> api.plan id force
  | createPlan id draft => Plan.toJson <$> api.createPlan id draft
  | updatePlan id draft => Plan.toJson <$> api.updatePlan id draft
  | deletePlan id => nothing <$> api.deletePlan id
  | activities id => listJson Activity.toJson <$> api.activities id
  | addActivity id draft => Activity.toJson <$> api.addActivity id draft
  | updateActivity parent id draft => Activity.toJson <$> api.updateActivity parent id draft
  | deleteActivity parent id => nothing <$> api.deleteActivity parent id
  | friends => listJson Profile.toJson <$> api.friends
  | friendRequests => listJson FriendRequest.toJson <$> api.friendRequests
  | befriend id => FriendRequest.toJson <$> api.befriend id
  | acceptFriend id => nothing <$> api.acceptFriend id
  | rejectFriend id => nothing <$> api.rejectFriend id
  | removeFriend id => nothing <$> api.removeFriend id
  | conversations => listJson Conversation.toJson <$> api.conversations
  | directConversation id => Conversation.toJson <$> api.directConversation id
  | createConversation title participants =>
    Conversation.toJson <$> api.createConversation title participants
  | messages id page => Page.toJson Message.toJson <$> api.messages id page
  | sendMessage id text => Message.toJson <$> api.sendMessage id text
  | sendAttachment id file caption => Message.toJson <$> api.sendAttachment id file caption
  | markRead id => nothing <$> api.markRead id
  | searchLocations text => listJson Location.toJson <$> api.searchLocations text
  | location id => Location.toJson <$> api.location id
  | nearby center radius => listJson Location.toJson <$> api.nearby center radius

end Operation

end TripClient
