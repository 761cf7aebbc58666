import ChatSteward.Command.Table
import ChatSteward.Platform.Operation
import ChatSteward.Platform.Settings

/-!
# Chat commands

What the commands do. Each is a consultation of the platform that ends with the text of a reply:
what was asked for, that it was done, the failure of the platform, or how the command is to be
used if it lacks something.

## Main definitions

* `Caller` — on whose behalf a command is carried out
* `usersText`, `chatsText` — users and chats, one on each line
* `whoAmI`, `whosYourDaddy` — what everybody may ask
* `add`, `create`, `destroy`, `join`, `list`, `members`, `remove` — the administration of chats
-/

namespace ChatSteward.Bot

open Platform (ChatSummary Consultation Failure Operation User)

/-- On whose behalf a command is carried out, and who the masters are. -/
structure Caller where
  sender : String
  masters : List String
deriving DecidableEq, Repr

/-! ## Texts -/

/-- Lines as one text. -/
def unlines (lines : List String) : String := String.intercalate "\n" lines

/-- A user by name, or by the English one where there is no other. -/
def userText (user : User) : String :=
  (if user.name.isEmpty then user.enName else user.name) ++ " (" ++ user.openId ++ ")"

/-- Users, one on each line. -/
def usersText (users : List User) : String :=
  if users.isEmpty then "no users" else unlines (users.map userText)

/-- A chat by name. -/
def chatText (chat : ChatSummary) : String := chat.name ++ " (" ++ chat.chatId ++ ")"

/-- Chats, one on each line. -/
def chatsText (chats : List ChatSummary) : String :=
  if chats.isEmpty then "no chats" else unlines (chats.map chatText)

/-- What was missing, and how the command is to be used. -/
def usage (missing pattern : String) : String :=
  missing ++ ", specify like this:\n" ++ pattern

/-- The text of an outcome, or of the failure. -/
def answerText {α : Type} (text : α → String) : Except Failure α → String
  | .ok outcome => text outcome
  | .error failure => failure.message

/-- Asks for an operation and puts what comes of it in words. -/
def consult (operation : Operation) (text : operation.Outcome → String) : Consultation String :=
  .ask operation fun answer => .done (answerText text answer)

/-- One consultation for each item, and a line for each, whatever failed before. -/
def consultEach (consult : String → Consultation String) :
    List String → Consultation (List String)
  | [] => .done []
  | item :: rest =>
    (consult item).bind fun line => (consultEach consult rest).bind fun lines =>
      .done (line :: lines)

/-! ## What everybody may ask -/

/-- The id of the sender. -/
def whoAmI (caller : Caller) : Consultation String := .done caller.sender

/-- The profiles of the masters. -/
def whosYourDaddy (caller : Caller) : Consultation String :=
  if caller.masters.isEmpty then .done "nobody" else consult (.users caller.masters) usersText

/-! ## The administration of chats -/

/-- Adds users to a chat. -/
def add (chat : String) (users : List String) : Consultation String :=
  if chat.isEmpty ∨ users.isEmpty then
    .done (usage "chat id is needed to add users to a chat" "add(chat-id, user-id...)")
  else consult (.addUsers chat users) fun _ => "successfully added users to chat"

/-- Creates a chat that the sender owns. -/
def create (caller : Caller) (name : String) : Consultation String :=
  if name.isEmpty then .done (usage "name is needed to create a chat" "create(name)")
  else
    consult (.createChat name caller.sender) fun id =>
      "chat with name \"" ++ name ++ "\" has been created, its id is " ++ id

/-- Whether the first of some ids is missing. -/
def lacksFirst : List String → Bool
  | [] => true
  | first :: _ => first.isEmpty

/-- Destroys chats one after the other. -/
def destroy (chats : List String) : Consultation String :=
  if lacksFirst chats then
    .done (usage "chat id is needed to destroy a chat" "destroy(chat-id...)")
  else
    (consultEach (fun chat => consult (.destroyChat chat) fun _ =>
      "successfully destroyed chat: " ++ chat) chats).bind fun lines => .done (unlines lines)

/-- Adds the sender to chats one after the other. -/
def join (caller : Caller) (chats : List String) : Consultation String :=
  if lacksFirst chats then .done (usage "chat id is needed to join a chat" "join(chat-id...)")
  else
    (consultEach (fun chat => consult (.addUsers chat [caller.sender]) fun _ =>
      "successfully joined chat: " ++ chat) chats).bind fun lines => .done (unlines lines)

/-- Lists every chat that the bot is in. -/
def list : Consultation String := consult .listChats chatsText

/-- Lists the members of a chat. -/
def members (chat : String) : Consultation String :=
  if chat.isEmpty then
    .done (usage "chat id is needed to list members of a chat" "members(chat-id)")
  else
    .ask (.chatInfo chat) fun
      | .error failure => .done failure.message
      | .ok info => consult (.users info.memberIds) usersText

/-- Removes users from a chat. -/
def remove (chat : String) (users : List String) : Consultation String :=
  if chat.isEmpty ∨ users.isEmpty then
    .done (usage "chat id is needed to remove users from a chat" "remove(chat-id, user-id...)")
  else consult (.removeUsers chat users) fun _ => "successfully removed users from chat"

end ChatSteward.Bot
