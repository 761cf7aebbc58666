import ChatSteward.Event.Mention
import ChatSteward.Json.Record
import ChatSteward.Json.Writer
import ChatSteward.Platform.Failure

/-!
# Envelopes of events

The platform delivers events in envelopes. One kind of envelope verifies the address that events
are sent to and holds a challenge to be returned; the other holds an event. The only events that
are acted on are text messages; their fields go by different names in older envelopes.

## Main definitions

* `Message` — an event as a message, with `Message.command`, `Message.replyChat` and
  `Message.author`
* `Envelope` — an envelope, with its `Envelope.kind` and `Envelope.textMessage?`
* `Envelope.ofBody` — the envelope of a request body
* `Envelope.json` — the value to be written for an envelope
-/

namespace ChatSteward.Event

open Json (Record Decoder Value)
open Platform (Failure)

/-- An event with the fields that messages have. Other events leave them empty. -/
structure Message where
  /-- What kind of event it is. -/
  event : String
  /-- What kind of message it is. -/
  kind : String
  chatKind : String
  openChatId : String
  /-- The chat, in older envelopes. -/
  chatId : String
  openId : String
  /-- The sender, in older envelopes. -/
  userOpenId : String
  messageId : String
  /-- The text with its mentions. -/
  text : String
  /-- The text without the mention of the bot. -/
  textWithoutBot : String
  mentionsBot : Bool
deriving DecidableEq, Repr

namespace Message

/-- The event with nothing in it. -/
def empty : Message := ⟨"", "", "", "", "", "", "", "", "", "", false⟩

/-- Whether an event is a text message. -/
def isText (message : Message) : Bool := message.event == "message" && message.kind == "text"

/-- The command of a message: the text without the mention of the bot, or the whole text if
that is blank, without mentions. -/
def command (message : Message) : String :=
  let text := Text.trimmed message.textWithoutBot
  stripMentions (if text.isEmpty then Text.trimmed message.text else text)

/-- The chat that a reply goes to. -/
def replyChat (message : Message) : String :=
  if message.openChatId.isEmpty then message.chatId else message.openChatId

/-- The user who sent the message. -/
def author (message : Message) : String :=
  if message.openId.isEmpty then message.userOpenId else message.openId

/-- How an event is decoded. -/
def record : Record Message where
  title := "struct MessageEvent"
  fields :=
    [.defaulted "type" Decoder.text fun event message => { message with event },
     .defaulted "msg_type" Decoder.text fun kind message => { message with kind },
     .defaulted "chat_type" Decoder.text fun chatKind message => { message with chatKind },
     .defaulted "open_chat_id" Decoder.text fun id message => { message with openChatId := id },
     .defaulted "chat_id" Decoder.text fun id message => { message with chatId := id },
     .defaulted "open_id" Decoder.text fun id message => { message with openId := id },
     .defaulted "user_open_id" Decoder.text fun id message => { message with userOpenId := id },
     .defaulted "open_message_id" Decoder.text fun id message => { message with messageId := id },
     .defaulted "text" Decoder.text fun text message => { message with text },
     .defaulted "text_without_at_bot" Decoder.text fun text message =>
       { message with textWithoutBot := text },
     .defaulted "is_mention" Decoder.boolean fun flag message =>
       { message with mentionsBot := flag }]
  start := .empty

/-- The value to be written for an event. -/
def json (message : Message) : Value :=
  .object
    [("type", .text message.event), ("msg_type", .text message.kind),
     ("chat_type", .text message.chatKind), ("open_chat_id", .text message.openChatId),
     ("chat_id", .text message.chatId), ("open_id", .text message.openId),
     ("user_open_id", .text message.userOpenId), ("open_message_id", .text message.messageId),
     ("text", .text message.text), ("text_without_at_bot", .text message.textWithoutBot),
     ("is_mention", .boolean message.mentionsBot)]

end Message

/-! ## Envelopes -/

/-- What an envelope is for. -/
inductive Kind where
  /-- The challenge is to be returned. -/
  | verification
  /-- There is an event inside. -/
  | callback
  | unknown (name : String)
deriving DecidableEq, Repr

/-- An envelope. -/
structure Envelope where
  kindName : String
  challenge : String
  token : String
  uuid : String
  event : Option Message
deriving DecidableEq, Repr

namespace Envelope

/-- What an envelope is for. -/
def kind (envelope : Envelope) : Kind :=
  if envelope.kindName = "url_verification" then .verification
  else if envelope.kindName = "event_callback" then .callback
  else .unknown envelope.kindName

/-- The event inside, if it is a text message. -/
def textMessage? (envelope : Envelope) : Option Message :=
  envelope.event.filter Message.isText

/-- How an envelope is decoded. -/
def record : Record Envelope where
  title := "struct EventEnvelope"
  fields :=
    [.defaulted "type" Decoder.text fun name envelope => { envelope with kindName := name },
     .defaulted "challenge" Decoder.text fun challenge envelope => { envelope with challenge },
     .defaulted "token" Decoder.text fun token envelope => { envelope with token },
     .defaulted "uuid" Decoder.text fun uuid envelope => { envelope with uuid },
     .defaulted "event" Message.record.decoder.optional fun event envelope =>
       { envelope with event }]
  start := ⟨"", "", "", "", none⟩

/-- The envelope of a request body. -/
def ofBody (body : List UInt8) : Except Failure Envelope :=
  match record.decoder.decode body with
  | .ok envelope => .ok envelope
  | .error fault => .error (.invalidPayload ("event body: " ++ fault.message))

/-- The value to be written for an envelope. Empty strings are left out, but for the kind, and
so is an absent event. -/
def json (envelope : Envelope) : Value :=
  let textUnlessEmpty (name text : String) := Json.memberUnless text.isEmpty name (.text text)
  .object
    ([("type", .text envelope.kindName)] ++ textUnlessEmpty "challenge" envelope.challenge ++
      textUnlessEmpty "token" envelope.token ++ textUnlessEmpty "uuid" envelope.uuid ++
      match envelope.event with
      | none => []
      | some message => [("event", message.json)])

end Envelope

end ChatSteward.Event
