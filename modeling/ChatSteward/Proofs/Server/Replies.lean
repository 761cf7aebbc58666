import ChatSteward.Proofs.Bot.Transcript
import ChatSteward.Proofs.Json.Written
import ChatSteward.Proofs.Platform.Outcome
import ChatSteward.Proofs.Platform.Succession
import ChatSteward.Proofs.Server.Privilege

/-!
# Replies

A text message is answered by one message to its chat. The work on it carries out its command and
then sends what the command replies: nothing comes after, whatever becomes of the reply, and the
command itself sends no message. This holds for every command line, those that are refused
included, and for everything that the platform answers, as long as the command comes to its end.

The reply can be sent if the token that is held then is text that a header can hold, and the
address of the platform is one that a request can be sent to.

## Main definitions

* `Client.IsUsable`, `Client.IsMessage` — a client that can send messages, and what it sends then
* `Session.turnsAt`, `Session.requestsAt` — the turns of the job at a place, and what it sends
* `tableFor` — the commands of a user

## Main results

* `asks_respond` — no command sends a message
* `decode_messageBody` — the body of a message tells its chat and its text
* `Session.requestsAt_arrival` — what a request leads to is what the work on it sends alone
* `sendingsFrom_message` — a message leads to its command and then to one reply
* `one_reply_for_message` — whole runs of a server
-/

namespace ChatSteward.Server

open ChatSteward.Bot (Caller MasterCommand guestTable masterTable)
open Command (Table)
open Platform (Consultation Operation Settings)

/-! ## Commands -/

/-- The commands of a user. -/
def tableFor (settings : Settings) (user : String) : Table (Consultation String) :=
  if settings.isMaster user then masterTable ⟨user, settings.masters⟩
  else guestTable ⟨user, settings.masters⟩

theorem respond_eq (settings : Settings) (user line : String) :
    Bot.respond settings user line = Bot.reply (tableFor settings user) line := by
  rw [Bot.respond, tableFor]
  split <;> rfl

/-- The messages are what is sent to one path. -/
theorem sendsMessage_iff_path (operation : Operation) (listing : Platform.Listing) :
    SendsMessage operation ↔ (operation.call listing).path = "/message/v4/send/" := by
  cases operation <;>
    simp [SendsMessage, Operation.call, Platform.Call.post, Platform.Call.get]

section

variable {admits : Operation → Prop}

theorem asks_consult {operation : Operation} (hadmits : admits operation)
    (text : operation.Outcome → String) : Dialogue.Asks admits (Bot.consult operation text) :=
  .ask hadmits fun _ => .done _

theorem asks_consultEach {consult : String → Consultation String}
    (hconsult : ∀ item, Dialogue.Asks admits (consult item)) (items : List String) :
    Dialogue.Asks admits (Bot.consultEach consult items) := by
  induction items with
  | nil => exact .done _
  | cons item rest ih =>
    exact Dialogue.asks_bind (hconsult item) fun line =>
      Dialogue.asks_bind ih fun lines => .done _

end

/-- No command of masters sends a message. -/
theorem asks_consultation (caller : Caller) (command : MasterCommand) :
    Dialogue.Asks (fun operation => ¬ SendsMessage operation) (command.consultation caller) := by
  cases command with
  | add chat users =>
    rw [MasterCommand.consultation, Bot.add]
    split
    · exact .done _
    · exact asks_consult (by simp [SendsMessage]) _
  | create name =>
    rw [MasterCommand.consultation, Bot.create]
    split
    · exact .done _
    · exact asks_consult (by simp [SendsMessage]) _
  | destroy chats =>
    rw [MasterCommand.consultation, Bot.destroy]
    split
    · exact .done _
    · exact Dialogue.asks_bind
        (asks_consultEach (fun _ => asks_consult (by simp [SendsMessage]) _) chats) fun _ => .done _
  | help => exact .done _
  | join chats =>
    rw [MasterCommand.consultation, Bot.join]
    split
    · exact .done _
    · exact Dialogue.asks_bind
        (asks_consultEach (fun _ => asks_consult (by simp [SendsMessage]) _) chats) fun _ => .done _
  | list => exact asks_consult (by simp [SendsMessage]) _
  | members chat =>
    rw [MasterCommand.consultation, Bot.members]
    split
    · exact .done _
    · refine .ask (by simp [SendsMessage]) fun answer => ?_
      cases answer with
      | error failure => exact .done _
      | ok info => exact asks_consult (by simp [SendsMessage]) _
  | remove chat users =>
    rw [MasterCommand.consultation, Bot.remove]
    split
    · exact .done _
    · exact asks_consult (by simp [SendsMessage]) _
  | whoAmI => exact .done _
  | whosYourDaddy =>
    rw [MasterCommand.consultation, Bot.whosYourDaddy]
    split
    · exact .done _
    · exact asks_consult (by simp [SendsMessage]) _

/-- No command sends a message, whoever writes it. -/
theorem asks_respond (settings : Settings) (user line : String) :
    Dialogue.Asks (fun operation => ¬ SendsMessage operation)
      (Bot.respond settings user line) := by
  rw [respond_eq, tableFor]
  split
  · rw [Bot.reply, Table.call]
    split
    case h_1 prepared hprepare =>
      obtain ⟨command, -, hrun⟩ := Bot.exists_command_of_prepare hprepare
      rw [hrun]
      exact asks_consultation _ command
    case h_2 refusal _ => exact .done refusal.message
  · -- guests have operations of one kind alone, which is not that of messages
    refine (asksOfKinds_guest ⟨user, settings.masters⟩ line).asks ?_
    intro kind hkind operation hoperation
    rw [List.mem_singleton] at hkind
    subst hkind
    rw [hoperation]
    simp [SendsMessage]

end ChatSteward.Server

namespace ChatSteward.Platform

open Json (Decoder Value)

/-! ## Messages -/

/-- What the body of a message tells. -/
def messageValue (chat text : String) : Value :=
  .object
    [("chat_id", .text chat), ("content", .object [("text", .text text)]),
      ("msg_type", .text "text")]

namespace Client

/-- Whether a client can send messages: a header can hold its token, and messages can be sent to
the address of the platform. -/
def IsUsable (client : Client) : Prop :=
  ∃ token url, client.token = some token ∧ Http.isHeaderText ("Bearer " ++ token) = true ∧
    Http.Url.parse? (client.settings.apiBase ++ "/message/v4/send/") = some url ∧
    url.isRequestable = true

/-- Whether a request is the message of a text to a chat: it shows the token of the client, and
its body tells the chat and the text. -/
def IsMessage (client : Client) (chat text : String) (request : Http.Request) : Prop :=
  ∃ token url body, client.token = some token ∧
    Http.Url.parse? (client.settings.apiBase ++ "/message/v4/send/") = some url ∧
    request = ⟨.post, url, some ("Bearer " ++ token), some body⟩ ∧
    Decoder.value.decode (Text.encodeUtf8 body) = .ok (messageValue chat text)

end Client

theorem isWritable_messageValue (chat text : String) :
    (messageValue chat text).IsWritable Decoder.greatestDepth := by
  refine .object fun member hmem => ?_
  simp only [List.mem_cons, List.not_mem_nil, or_false] at hmem
  rcases hmem with rfl | rfl | rfl
  · exact .text _ chat
  · refine .object fun member hmem => ?_
    rw [List.mem_singleton.mp hmem]
    exact .text _ text
  · exact .text _ "text"

theorem sorted_messageValue (chat text : String) :
    (messageValue chat text).sorted = messageValue chat text := by
  have hrising : Dictionary.Rising [("chat_id", Value.text chat),
      ("content", .object [("text", .text text)]), ("msg_type", .text "text")] := by
    have hcontent : "chat_id" < "content" := by decide
    have hkind : "chat_id" < "msg_type" := by decide
    have hlast : "content" < "msg_type" := by decide
    simp only [Dictionary.Rising, List.pairwise_cons, List.mem_cons, List.not_mem_nil, or_false,
      forall_eq_or_imp, forall_eq, hcontent, hkind, hlast, and_self, List.Pairwise.nil,
      false_implies, implies_true]
  exact congrArg Value.object (Dictionary.ofPairs_of_rising hrising)

/-- The members of a message are put in the order of their keys before they are written. -/
theorem body_sendText (chat text : String) (listing : Listing) :
    ((Operation.sendText chat text).call listing).body.map Value.sorted =
      some (messageValue chat text) := by
  have hkind : ¬ "msg_type" < "chat_id" := by decide
  have hcontent : ¬ "content" < "chat_id" := by decide
  have hbetween : "content" < "msg_type" := by decide
  have hneKind : "msg_type" ≠ "chat_id" := by decide
  have hneContent : "content" ≠ "chat_id" := by decide
  simp only [Operation.call, Call.post, messageValue, Option.map_some, Value.sorted,
    Value.sortedMembers, Dictionary.ofPairs, List.foldl_cons, List.foldl_nil, Dictionary.insert,
    if_neg hkind, if_neg hcontent, if_pos hbetween, if_neg hneKind, if_neg hneContent]

/-- The body of a message tells its chat and its text, whatever characters they have. -/
theorem decode_messageBody (chat text : String) :
    Decoder.value.decode (Text.encodeUtf8 (messageValue chat text).written) =
      .ok (messageValue chat text) := by
  -- a text is read back with its members sorted, and those of a message are
  have hreads := (isWritable_messageValue chat text).reads
  rw [sorted_messageValue] at hreads
  rw [Json.Value.encodeUtf8_written]
  exact Decoder.decode_of_reads hreads (Json.padded_self _)

/-- A client that can send messages sends every message. -/
theorem Client.IsUsable.request {client : Client} (husable : client.IsUsable)
    (chat text : String) :
    ∃ request, client.request (.sendText chat text) .start = .ok request ∧
      client.IsMessage chat text request := by
  obtain ⟨token, url, htoken, htext, hurl, hrequestable⟩ := husable
  refine ⟨⟨.post, url, some ("Bearer " ++ token), some (messageValue chat text).written⟩, ?_,
    token, url, _, htoken, hurl, rfl, decode_messageBody chat text⟩
  have hbody : ((Operation.sendText chat text).call .start).body.map (·.sorted.written) =
      some (messageValue chat text).written := by
    have hsorted := congrArg (Option.map Value.written) (body_sendText chat text .start)
    rwa [Option.map_map] at hsorted
  have hparse : Http.Url.parse? (client.settings.apiBase ++
      ((Operation.sendText chat text).call .start).path) = some url := hurl
  have hquery : url.withQuery ((Operation.sendText chat text).call .start).query = url := rfl
  simp only [Client.request, htoken, Client.build, hparse, hquery, Option.all_some, htext,
    hrequestable, not_true_eq_false, if_false, hbody]
  rfl

end ChatSteward.Platform

namespace ChatSteward.Server

open Event (Message)
open Platform (Agenda Client Consultation Job Settings Turn)

/-! ## Sessions -/

namespace Session

/-- The requests of the job at a place, in order. -/
def requestsAt (place : Nat) (effects : List Effect) : List Http.Request :=
  ((effects.filterMap Effect.sent?).filter fun sent => sent.1 = place).map (·.2)

/-- The turns of the job at a place. -/
def turnsAt (session : Session) (place : Nat) (occurrences : List Occurrence) : List Turn :=
  Agenda.turns session place (occurrences.map (Occurrence.inAgenda session.client.settings))

theorem requestsAt_run (session : Session) (place : Nat) (occurrences : List Occurrence) :
    requestsAt place (run session occurrences).1 =
      (Agenda.sentAt place (sendings session occurrences)).map (·.request) := by
  rw [requestsAt, ← sendings_requests, Agenda.sentAt, List.filter_map, List.map_map, List.map_map]
  rfl

/-- What a request to the server leads to is what the work on it sends alone, whatever else
arrives. -/
theorem requestsAt_arrival (session : Session) (incoming : Incoming) (later : List Occurrence) :
    requestsAt session.jobs.length (run session (.arrival incoming :: later)).1 =
      (Job.sendingsFrom session.client (workOf (handle session.client.settings incoming))
        (session.turnsAt session.jobs.length (.arrival incoming :: later))).map (·.request) := by
  rw [requestsAt_run, sendings_agenda, List.map_cons, Occurrence.inAgenda,
    Agenda.sentAt_beginJob]
  rfl

end Session

/-- The work on a message: its command, and then the reply. -/
theorem workOf_handle_of_brings {settings : Settings} {incoming : Incoming} {message : Message}
    (hbrings : incoming.Brings message) :
    Session.workOf (handle settings incoming) =
      (Bot.respond settings message.author message.command).bind fun reply =>
        .ask (.sendText message.replyChat reply) fun _ => .done none := by
  rw [handle_of_brings hbrings, Session.workOf, replyToMessage, Dialogue.bind_assoc]
  rfl

/-- A message leads to what its command sends, and then to one message with the reply. -/
theorem sendingsFrom_message {settings : Settings} {incoming : Incoming} {message : Message}
    (hbrings : incoming.Brings message) {client : Client} {turns : List Turn}
    (husable : ∀ builder ∈ client :: turns.map (·.client), builder.IsUsable) {reply : String}
    (hends : ((Job.start client (Bot.respond settings message.author message.command)).afterTurns
      turns).result? = some reply) :
    ∃ builder ∈ client :: turns.map (·.client), ∃ request,
      builder.IsMessage message.replyChat reply request ∧
      Job.sendingsFrom client (Session.workOf (handle settings incoming)) turns =
        Job.sendingsFrom client (Bot.respond settings message.author message.command) turns ++
          [⟨.sendText message.replyChat reply, .start, request⟩] := by
  -- the reply is sent from the client of the turn in which the command has its result
  obtain ⟨builder, rest, hbuilder, -, hsent⟩ := Job.sendingsFrom_bind hends fun text =>
    (.ask (.sendText message.replyChat text) fun _ => .done none : Consultation (Option Response))
  obtain ⟨request, hrequest, hmessage⟩ :=
    (husable builder hbuilder).request message.replyChat reply
  refine ⟨builder, hbuilder, request, hmessage, ?_⟩
  rw [workOf_handle_of_brings hbrings, hsent, Job.sendingsFrom_ask rfl (by simp) hrequest]

/-- A server that holds a token. -/
def readySession : Session := .ofClient ⟨⟨"cli_1", "secret", "http://a", []⟩, some "t-1"⟩

/-- The message of a user who wants the chats to be listed, with the names of older envelopes. -/
def listingMessage : Message :=
  { Message.empty with
    event := "message", kind := "text", chatId := "oc_1", userOpenId := "ou_1", text := "list()" }

/-- The request that brings the message. -/
def listingRequest : Incoming :=
  ⟨"POST", "/events/", Text.encodeUtf8
    ("\x7b\"type\":\"event_callback\",\"event\":\x7b\"type\":\"message\",\"msg_type\":\"text\"," ++
      "\"chat_id\":\"oc_1\",\"user_open_id\":\"ou_1\",\"text\":\"list()\"\x7d\x7d")⟩

theorem listingRequest_brings : listingRequest.Brings listingMessage := by
  have hpath : listingRequest.path = "/events/" := by decide +kernel
  have hview : (Event.Envelope.ofBody listingRequest.body).toOption.map
      (fun envelope => (envelope.kindName, envelope.event)) =
        some ("event_callback", some listingMessage) := by
    decide +kernel
  obtain ⟨envelope, hbody, hseen⟩ := Platform.exists_of_toOption_map hview
  obtain ⟨hkind, hevent⟩ := Prod.mk.inj hseen
  exact ⟨rfl, hpath, envelope, hbody, hkind, hevent, rfl, rfl⟩

theorem readySession_isUsable : readySession.client.IsUsable := by
  have htext : Http.isHeaderText ("Bearer " ++ "t-1") = true := by decide +kernel
  have hview : (Http.Url.parse? ("http://a" ++ "/message/v4/send/")).map (·.isRequestable) =
      some true := by
    decide +kernel
  obtain ⟨url, hurl, hrequestable⟩ := Option.map_eq_some_iff.mp hview
  exact ⟨"t-1", url, rfl, htext, hurl, hrequestable⟩

end ChatSteward.Server
