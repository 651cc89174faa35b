import TripClient.Client.Exchange
import TripClient.Text.Blank
import TripClient.Travel.Attachment
import TripClient.Travel.Chat

/-!
# Conversations

Reading conversations and their messages, and writing to them.
-/

namespace TripClient.Api

open Client

/-- The conversations of whoever is signed in. -/
def conversations (api : Api) : Work (List Conversation) :=
  api.list Conversation.decoder ["conversations"] [] "conversations"

/-- The conversation with one other user; the server creates it if there is none yet. -/
def directConversation (api : Api) (user : UserId) : Work Conversation :=
  api.send Conversation.decoder .post ["conversations", "direct"]
    (.object [("user_id", user.toJson)]) "conversation"

/-- Refuses a conversation without a title or without participants. -/
def checkConversation (title : String) (participants : List UserId) : Outcome Unit :=
  if Text.isBlankText title then .error (.invalidRequest "Conversation title is required")
  else if participants.isEmpty then
    .error (.invalidRequest "A group conversation needs at least one participant")
  else .ok ()

/-- The body that creates a conversation. -/
def conversationBody (title : String) (participants : List UserId) : Json :=
  .object [("title", .string (Text.trim title)), ("participants", .array (participants.map Id.toJson))]

/-- Creates a conversation of a group of users. -/
def createConversation (api : Api) (title : String) (participants : List UserId) :
    Work Conversation := do
  Work.ofOutcome (checkConversation title participants)
  api.send Conversation.decoder .post ["conversations"] (conversationBody title participants)
    "conversation"

/-- A page of the messages of a conversation; the first page has the number 1. -/
def messages (api : Api) (id : ConversationId) (page : Nat) : Work (Page Message) :=
  api.page Message.decoder ["conversations", id.text, "messages"]
    [("page", Decimal.digitText (max page 1))] "messages"

/-- Writes a message. -/
def sendMessage (api : Api) (id : ConversationId) (text : String) : Work Message := do
  Work.ofOutcome
    (if Text.isBlankText text then .error (.invalidRequest "Message cannot be empty") else .ok ())
  api.send Message.decoder .post ["conversations", id.text, "messages"]
    (.object [("text", .string text)]) "message"

/-- The form of a message with a file; a caption of blanks is none. -/
def attachmentForm (file : Attachment) (caption : Option String) : Http.Form where
  fields := match caption with
    | some c => if Text.isBlankText c then [] else [("text", Text.trim c)]
    | none => []
  files := [file.toPart "attachment"]

/-- Sends a file. -/
def sendAttachment (api : Api) (id : ConversationId) (file : Attachment)
    (caption : Option String) : Work Message :=
  api.upload Message.decoder .post ["conversations", id.text, "messages"]
    (attachmentForm file caption) "message"

/-- Says that all messages of a conversation have been read. -/
def markRead (api : Api) (id : ConversationId) : Work Unit :=
  api.order .post ["conversations", id.text, "read"]

end TripClient.Api
