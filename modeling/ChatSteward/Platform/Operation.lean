import ChatSteward.Dialogue
import ChatSteward.Platform.Directory
import ChatSteward.Platform.Failure
import ChatSteward.Platform.Post

/-!
# Operations of the platform

What can be asked of the platform once an access token is held, and what each operation yields.
A consultation is a dialogue whose questions are operations: each is answered by its outcome or
by a failure.

## Main definitions

* `Operation` — the operations
* `Operation.Outcome` — what an operation yields when it succeeds
* `Answer` — an outcome or a failure
* `Consultation` — a dialogue of operations
-/

namespace ChatSteward.Platform

/-- An operation of the platform. Users are given by their ids. -/
inductive Operation where
  | sendText (chat : String) (content : String)
  | sendPost (chat : String) (post : Post)
  /-- Creates a chat with its owner as the first member. -/
  | createChat (name : String) (owner : String)
  | addUsers (chat : String) (users : List String)
  | removeUsers (chat : String) (users : List String)
  | destroyChat (chat : String)
  | chatInfo (chat : String)
  /-- Every chat that the bot is in. -/
  | listChats
  /-- The profiles of users. -/
  | users (ids : List String)
deriving DecidableEq

/-- What an operation yields: the id of the message or chat that was made, or what was asked
for. -/
@[reducible] def Operation.Outcome : Operation → Type
  | .sendText .. | .sendPost .. | .createChat .. => String
  | .addUsers .. | .removeUsers .. | .destroyChat .. => Unit
  | .chatInfo .. => ChatInfo
  | .listChats => List ChatSummary
  | .users .. => List User

/-- What comes of an operation. -/
abbrev Answer (operation : Operation) : Type := Except Failure operation.Outcome

/-- A dialogue of operations. -/
abbrev Consultation := Dialogue Operation Answer

end ChatSteward.Platform
