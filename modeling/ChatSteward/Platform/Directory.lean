import ChatSteward.Json.Record
import ChatSteward.Json.Writer

/-!
# Chats and users

What the platform tells about chats, their members and users. Only the ids are always there;
everything else may be left out and is empty then.

## Main definitions

* `ChatSummary`, `ChatMember`, `ChatInfo`, `User` — the types, each with its `record` for
  decoding and its `json` for writing
* `ChatInfo.memberIds` — the ids of the members
-/

namespace ChatSteward.Platform

open Json (Field Record Decoder Value)

/-! ## Chats -/

/-- A chat in a listing. -/
structure ChatSummary where
  chatId : String
  name : String
  description : String
  ownerOpenId : String
deriving DecidableEq, Repr

namespace ChatSummary

/-- How a chat in a listing is decoded. -/
def record : Record ChatSummary where
  title := "struct ChatSummary"
  fields :=
    [.required "chat_id" Decoder.text fun id chat => { chat with chatId := id },
     .defaulted "name" Decoder.text fun name chat => { chat with name },
     .defaulted "description" Decoder.text fun description chat => { chat with description },
     .defaulted "owner_open_id" Decoder.text fun id chat => { chat with ownerOpenId := id }]
  start := ⟨"", "", "", ""⟩

/-- The value to be written for a chat in a listing. -/
def json (chat : ChatSummary) : Value :=
  .object
    [("chat_id", .text chat.chatId), ("name", .text chat.name),
     ("description", .text chat.description), ("owner_open_id", .text chat.ownerOpenId)]

end ChatSummary

/-- A member of a chat: the id for this application, and the one within the organisation. -/
structure ChatMember where
  openId : String
  userId : String
deriving DecidableEq, Repr

namespace ChatMember

/-- How a member is decoded. -/
def record : Record ChatMember where
  title := "struct ChatMember"
  fields :=
    [.required "open_id" Decoder.text fun id member => { member with openId := id },
     .defaulted "user_id" Decoder.text fun id member => { member with userId := id }]
  start := ⟨"", ""⟩

/-- The value to be written for a member. -/
def json (member : ChatMember) : Value :=
  .object [("open_id", .text member.openId), ("user_id", .text member.userId)]

end ChatMember

/-- A chat with its members. -/
structure ChatInfo where
  chatId : String
  name : String
  description : String
  ownerOpenId : String
  members : List ChatMember
deriving DecidableEq, Repr

namespace ChatInfo

/-- How a chat with its members is decoded. -/
def record : Record ChatInfo where
  title := "struct ChatInfo"
  fields :=
    [.required "chat_id" Decoder.text fun id chat => { chat with chatId := id },
     .defaulted "name" Decoder.text fun name chat => { chat with name },
     .defaulted "description" Decoder.text fun description chat => { chat with description },
     .defaulted "owner_open_id" Decoder.text fun id chat => { chat with ownerOpenId := id },
     .defaulted "members" ChatMember.record.decoder.list fun members chat =>
       { chat with members }]
  start := ⟨"", "", "", "", []⟩

/-- The value to be written for a chat with its members. -/
def json (chat : ChatInfo) : Value :=
  .object
    [("chat_id", .text chat.chatId), ("name", .text chat.name),
     ("description", .text chat.description), ("owner_open_id", .text chat.ownerOpenId),
     ("members", .array (chat.members.map ChatMember.json))]

/-- The ids of the members, in order. -/
def memberIds (chat : ChatInfo) : List String := chat.members.map (·.openId)

end ChatInfo

/-! ## Users -/

/-- The profile of a user. -/
structure User where
  openId : String
  name : String
  enName : String
  email : String
deriving DecidableEq, Repr

namespace User

/-- How a profile is decoded. -/
def record : Record User where
  title := "struct UserInfo"
  fields :=
    [.required "open_id" Decoder.text fun id user => { user with openId := id },
     .defaulted "name" Decoder.text fun name user => { user with name },
     .defaulted "en_name" Decoder.text fun name user => { user with enName := name },
     .defaulted "email" Decoder.text fun email user => { user with email }]
  start := ⟨"", "", "", ""⟩

/-- The value to be written for a profile. -/
def json (user : User) : Value :=
  .object
    [("open_id", .text user.openId), ("name", .text user.name),
     ("en_name", .text user.enName), ("email", .text user.email)]

end User

end ChatSteward.Platform
