import TripClient.Travel.Profile

/-!
# Conversations and messages

Conversations are between two users or within a group of them.
-/

namespace TripClient

/-- A message of a conversation. -/
structure Message where
  id : MessageId
  conversation : Option ConversationId
  sender : UserId
  text : String
  attachmentUrl : Option String
  createdAt : Option String
  deriving DecidableEq

namespace Message

/-- The fields of a message. -/
def shape : Json.Shape Message :=
  Message.mk
    <$> Json.Shape.ofField (.required "id" Id.decoder)
    <*> Json.Shape.ofField (.optional "conversation" Id.decoder ["conversation_id"])
    <*> Json.Shape.ofField (.required "sender" Id.decoder ["sender_id"])
    <*> Json.Shape.ofField (.withDefault "text" .text "" ["content", "body"])
    <*> Json.Shape.ofField (.optional "attachment_url" .text ["attachment"])
    <*> Json.Shape.ofField (.optional "created_at" .text ["timestamp"])

/-- How a message is read. -/
def decoder : Json.Decoder Message := shape.decode "Message"

/-- A message as JSON. -/
def toJson (m : Message) : Json :=
  .ofMembers [
    ("id", m.id.toJson),
    ("conversation", Id.toJson? m.conversation),
    ("sender", m.sender.toJson),
    ("text", .string m.text),
    ("attachment_url", .ofText? m.attachmentUrl),
    ("created_at", .ofText? m.createdAt)]

end Message

/-- A conversation. -/
structure Conversation where
  id : ConversationId
  title : Option String
  isGroup : Bool
  participants : List Profile
  lastMessage : Option Message
  unreadCount : Nat
  deriving DecidableEq

namespace Conversation

/-- The fields of a conversation. -/
def shape : Json.Shape Conversation :=
  Conversation.mk
    <$> Json.Shape.ofField (.required "id" Id.decoder)
    <*> Json.Shape.ofField (.optional "title" .text ["name"])
    <*> Json.Shape.ofField (.withDefault "is_group" .bool false)
    <*> Json.Shape.ofField (.withDefault "participants" (.list Profile.decoder) [] ["members"])
    <*> Json.Shape.ofField (.optional "last_message" Message.decoder)
    <*> Json.Shape.ofField (.withDefault "unread_count" .count 0)

/-- How a conversation is read. -/
def decoder : Json.Decoder Conversation := shape.decode "Conversation"

/-- A conversation as JSON. -/
def toJson (c : Conversation) : Json :=
  .ofMembers [
    ("id", c.id.toJson),
    ("title", .ofText? c.title),
    ("is_group", .bool c.isGroup),
    ("participants", .array (c.participants.map Profile.toJson)),
    ("last_message", match c.lastMessage with | some m => m.toJson | none => .null),
    ("unread_count", .ofNat c.unreadCount)]

end Conversation

end TripClient
