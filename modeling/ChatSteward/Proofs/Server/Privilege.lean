import ChatSteward.Proofs.Command.Arity
import ChatSteward.Proofs.Platform.Asked
import ChatSteward.Proofs.Server.Traffic

/-!
# Who administers chats

If there are masters, nobody else makes a server administer chats. The table of guests has no
command for it, remote calls only push messages, and all other requests lead to nothing. So each
request for the administration of chats is sent while a text message of a master is worked on,
however the requests to the server and the answers of the platform mix.

## Main definitions

* `chatPaths` — where chats are administered
* `Incoming.Brings` — a request that is an event with a text message
* `SendsMessage` — the operations that send a message

## Main results

* `asksOfKinds_guest` — what a guest can make the server ask
* `asks_answerRemoteCall` — what a remote call can make the server ask
* `handle_cases` — what a request can lead to
* `chats_administered_by_masters` — whole runs of a server with masters
-/

namespace ChatSteward.Server

open ChatSteward.Bot (Caller guestOperations guestTable)
open Command (Bound Plan Table)
open Event (Envelope Message)
open Platform (Agenda Client Consultation Job Operation Sending Settings)

/-- Where chats are administered, below the address of the platform. -/
def chatPaths : List String :=
  ["/chat/v4/create/", "/chat/v4/chatter/add/", "/chat/v4/chatter/delete/", "/chat/v4/disband",
    "/chat/v4/info", "/chat/v4/list"]

/-- Whether a request is an event of the platform with a text message. -/
def Incoming.Brings (incoming : Incoming) (message : Message) : Prop :=
  incoming.method = "POST" ∧ incoming.path = "/events/" ∧
    ∃ envelope, Envelope.ofBody incoming.body = .ok envelope ∧
      envelope.kindName = "event_callback" ∧ envelope.event = some message ∧
      message.event = "message" ∧ message.kind = "text"

/-! ## Guests -/

theorem asksOfKinds_guestOperations {caller : Caller} {help : String}
    {operation : Command.Operation (Consultation String)}
    (hmem : operation ∈ guestOperations caller help) (values : List Bound) :
    Dialogue.AsksOfKinds [(· = .users caller.masters)] (operation.plan.run values) := by
  simp only [guestOperations, List.mem_cons, List.not_mem_nil, or_false] at hmem
  rcases hmem with rfl | rfl | rfl
  · exact .done _ help
  · exact .done _ caller.sender
  · rw [Plan.run, Bot.whosYourDaddy]
    split
    · exact .done _ "nobody"
    · exact .ask rfl fun answer => .done _ (Bot.answerText Bot.usersText answer)

/-- Whatever a guest writes, the server asks for the profiles of the masters at most. -/
theorem asksOfKinds_guest (caller : Caller) (line : String) :
    Dialogue.AsksOfKinds [(· = .users caller.masters)] (Bot.reply (guestTable caller) line) := by
  rw [Bot.reply, Table.call]
  split
  case h_1 prepared hprepare =>
    obtain ⟨expression, -, hmem, -, -⟩ := Table.exists_of_prepare hprepare
    rw [guestTable, Bot.withHelp] at hmem
    exact asksOfKinds_guestOperations hmem prepared.arguments
  case h_2 refusal _ => exact .done _ refusal.message

/-- The work on a message of a guest looks up the masters and replies, at most once each. -/
theorem asksOfKinds_replyToMessage {settings : Settings} {message : Message}
    (hguest : settings.isMaster message.author = false) :
    Dialogue.AsksOfKinds
      [(· = .users settings.masters), fun operation =>
        ∃ text, operation = .sendText message.replyChat text]
      (replyToMessage settings message) := by
  have hrespond : Bot.respond settings message.author message.command =
      Bot.reply (guestTable ⟨message.author, settings.masters⟩) message.command := by
    simp only [Bot.respond, hguest, Bool.false_eq_true, if_false]
  have hreply (text : String) :
      Dialogue.AsksOfKinds [fun operation => ∃ text, operation = .sendText message.replyChat text]
        (.ask (.sendText message.replyChat text) fun _ => .done () : Consultation Unit) :=
    .ask ⟨text, rfl⟩ fun _ => .done _ ()
  rw [replyToMessage, hrespond]
  exact (asksOfKinds_guest ⟨message.author, settings.masters⟩ message.command).bind hreply

theorem isMaster_iff {settings : Settings} (hmasters : settings.masters ≠ []) (user : String) :
    settings.isMaster user = true ↔ user ∈ settings.masters := by
  simp [Settings.isMaster, hmasters]

/-! ## Remote calls -/

/-- Whether an operation sends a message. -/
def SendsMessage (operation : Operation) : Prop :=
  (∃ chat text, operation = .sendText chat text) ∨ ∃ chat post, operation = .sendPost chat post

theorem sendsMessage_of_sendText {call : RemoteCall} {operation : Operation}
    (hcall : call.sendText = .ok operation) : SendsMessage operation := by
  rw [RemoteCall.sendText] at hcall
  split at hcall
  · cases hcall
  · split at hcall
    · cases hcall
    · exact .inl ⟨_, _, (Except.ok.inj hcall).symm⟩

theorem sendsMessage_of_sendPost {call : RemoteCall} {operation : Operation}
    (hcall : call.sendPost = .ok operation) : SendsMessage operation := by
  rw [RemoteCall.sendPost] at hcall
  split at hcall
  · cases hcall
  · split at hcall
    · cases hcall
    · exact .inr ⟨_, _, (Except.ok.inj hcall).symm⟩

/-- The operation of a remote call sends a message. -/
theorem sendsMessage_of_operation {call : RemoteCall} {operation : Operation}
    (hcall : call.operation = .ok operation) : SendsMessage operation := by
  rw [RemoteCall.operation] at hcall
  split at hcall
  · cases hcall
  case h_2 service method _ =>
    -- only one service is known, and two methods of it
    by_cases hservice : service ≠ "Lark"
    · rw [if_pos hservice] at hcall
      cases hcall
    rw [if_neg hservice] at hcall
    by_cases htext : method = "SendMessage"
    · rw [if_pos htext] at hcall
      exact sendsMessage_of_sendText hcall
    rw [if_neg htext] at hcall
    by_cases hpost : method = "SendPost"
    · rw [if_pos hpost] at hcall
      exact sendsMessage_of_sendPost hcall
    · rw [if_neg hpost] at hcall
      cases hcall

/-- Whatever a remote call says, the server asks for nothing but messages. -/
theorem asks_answerRemoteCall (body : List UInt8) :
    Dialogue.Asks SendsMessage (answerRemoteCall body) := by
  rw [answerRemoteCall]
  split
  · exact .done _
  · refine Dialogue.asks_bind ?_ fun _ => .done _
    rw [RemoteCall.dispatch]
    split
    · exact .done _
    case h_2 operation hcall =>
      refine .ask (sendsMessage_of_operation hcall) ?_
      intro answer
      cases answer with
      | ok => exact .done _
      | error => exact .done _

/-! ## Requests -/

/-- A text message is acknowledged and worked on. -/
theorem handle_of_brings {settings : Settings} {incoming : Incoming} {message : Message}
    (hbrings : incoming.Brings message) :
    handle settings incoming = .atOnce .noContent (replyToMessage settings message) := by
  obtain ⟨hmethod, hpath, envelope, hbody, hkind, hevent, htype, htext⟩ := hbrings
  have hcallback : envelope.kind = .callback := by simp [Envelope.kind, hkind]
  have hmessage : envelope.textMessage? = some message := by
    simp [Envelope.textMessage?, hevent, Message.isText, htype, htext]
  simp [handle, hmethod, hpath, handleEvent, hbody, hcallback, hmessage]

/-- A request is a text message, or a remote call, or leads to nothing but its response. -/
theorem handle_cases (settings : Settings) (incoming : Incoming) :
    (∃ message, incoming.Brings message) ∨
      (incoming.path = "/jsonrpc/" ∧
        handle settings incoming = .later (answerRemoteCall incoming.body)) ∨
      ∃ response, handle settings incoming = .respond response := by
  -- the path of the sign of life comes first, then the method, then the other paths
  by_cases hempty : incoming.path = "/204/"
  · exact .inr (.inr ⟨_, if_pos hempty⟩)
  rw [handle, if_neg hempty]
  by_cases hmethod : incoming.method ≠ "POST"
  · rw [if_pos hmethod]
    exact .inr (.inr ⟨_, rfl⟩)
  rw [if_neg hmethod]
  by_cases hevents : incoming.path = "/events/"
  · rw [if_pos hevents, handleEvent]
    split
    case h_1 => exact .inr (.inr ⟨_, rfl⟩)
    case h_2 envelope hbody =>
      split
      case h_1 => exact .inr (.inr ⟨_, rfl⟩)
      case h_3 => exact .inr (.inr ⟨_, rfl⟩)
      case h_2 hkind =>
        split
        case h_2 => exact .inr (.inr ⟨_, rfl⟩)
        case h_1 message hmessage =>
          have hcallback : envelope.kindName = "event_callback" := by
            unfold Envelope.kind at hkind
            split at hkind
            · cases hkind
            · split at hkind
              · assumption
              · cases hkind
          obtain ⟨hevent, htext⟩ := Option.filter_eq_some_iff.mp hmessage
          rw [Message.isText, Bool.and_eq_true, beq_iff_eq, beq_iff_eq] at htext
          exact .inl ⟨message, not_not.mp hmethod, hevents, envelope, hbody, hcallback, hevent,
            htext⟩
  rw [if_neg hevents]
  by_cases hremote : incoming.path = "/jsonrpc/"
  · rw [if_pos hremote]
    exact .inr (.inl ⟨hremote, rfl⟩)
  · rw [if_neg hremote]
    exact .inr (.inr ⟨_, rfl⟩)

/-! ## Whole runs -/

/-- A server that has just been started has no jobs and the settings of its configuration. -/
theorem Session.create_fresh {config : Config} {session : Session}
    (hcreate : Session.create config = .ok session) :
    session.jobs = [] ∧ session.client.settings = config.settings := by
  rw [Session.create] at hcreate
  cases hvalid : config.validate with
  | error fault =>
    rw [hvalid] at hcreate
    cases hcreate
  | ok =>
    rw [hvalid, Client.create] at hcreate
    cases hsettings : config.settings.validate with
    | error failure =>
      rw [hsettings] at hcreate
      cases hcreate
    | ok =>
      rw [hsettings] at hcreate
      cases hcreate
      exact ⟨rfl, rfl⟩

theorem not_mem_chatPaths_of_message {operation : Operation} (hmessage : SendsMessage operation)
    (listing : Platform.Listing) : (operation.call listing).path ∉ chatPaths := by
  have hsend : "/message/v4/send/" ∉ chatPaths := by decide
  rcases hmessage with ⟨chat, text, rfl⟩ | ⟨chat, post, rfl⟩
  · exact hsend
  · exact hsend

theorem not_mem_chatPaths_of_users (ids : List String) (listing : Platform.Listing) :
    ((Operation.users ids).call listing).path ∉ chatPaths := by
  have husers : "/contact/v1/user/batch_get" ∉ chatPaths := by decide
  exact husers

/-- What is sent while a message of a guest is worked on: one look-up of the masters at most, and
then one reply at most. -/
theorem sent_for_guest {settings : Settings} {incoming : Incoming} {message : Message}
    (hbrings : incoming.Brings message) (hguest : settings.isMaster message.author = false)
    (client : Client) (turns : List Platform.Turn) :
    ∃ lookup reply : List Operation,
      (Job.sendingsFrom client (Session.workOf (handle settings incoming)) turns).map
          (·.operation) = lookup ++ reply ∧
        (lookup = [] ∨ lookup = [.users settings.masters]) ∧
        (reply = [] ∨ ∃ text, reply = [.sendText message.replyChat text]) := by
  have hdone : Dialogue.AsksOfKinds [] (.done none : Consultation (Option Response)) :=
    .done [] none
  have hasks := (asksOfKinds_replyToMessage hguest).bind fun _ => hdone
  have hsent := Job.sendingsFrom_ofKinds (by simp) hasks client turns
  obtain ⟨lookup, reply, hoperations, hlookup, hreply⟩ := hsent.two
  rw [handle_of_brings hbrings]
  refine ⟨lookup, reply, hoperations, ?_, ?_⟩
  · rcases hlookup with hnone | ⟨operation, hone, rfl⟩
    · exact .inl hnone
    · exact .inr hone
  · rcases hreply with hnone | ⟨operation, hone, text, rfl⟩
    · exact .inl hnone
    · exact .inr ⟨text, hone⟩

theorem not_mem_chatPaths_for_guest {settings : Settings} {incoming : Incoming} {message : Message}
    (hbrings : incoming.Brings message) (hguest : settings.isMaster message.author = false)
    (client : Client) (turns : List Platform.Turn) :
    ∀ sending ∈ Job.sendingsFrom client (Session.workOf (handle settings incoming)) turns,
      sending.path ∉ chatPaths := by
  intro sending hmem
  obtain ⟨lookup, reply, hoperations, hlookup, hreply⟩ :=
    sent_for_guest hbrings hguest client turns
  have hoperation : sending.operation ∈ lookup ++ reply :=
    hoperations ▸ List.mem_map_of_mem hmem
  rw [Sending.path]
  rcases List.mem_append.mp hoperation with hoperation | hoperation
  · rcases hlookup with rfl | rfl
    · cases hoperation
    · rw [List.mem_singleton.mp hoperation]
      exact not_mem_chatPaths_of_users _ _
  · rcases hreply with rfl | ⟨text, rfl⟩
    · cases hoperation
    · exact not_mem_chatPaths_of_message (.inl ⟨_, _, List.mem_singleton.mp hoperation⟩) _

/-- What is sent for a remote call are messages. -/
theorem not_mem_chatPaths_for_remoteCall {settings : Settings} {incoming : Incoming}
    (hremote : handle settings incoming = .later (answerRemoteCall incoming.body))
    (client : Client) (turns : List Platform.Turn) :
    ∀ sending ∈ Job.sendingsFrom client (Session.workOf (handle settings incoming)) turns,
      sending.path ∉ chatPaths := by
  intro sending hmem
  rw [hremote] at hmem
  have hasks := Dialogue.asks_bind (asks_answerRemoteCall incoming.body)
    fun response => Dialogue.Asks.done (some response)
  exact not_mem_chatPaths_of_message (Job.sendingsFrom_asks hasks client turns sending hmem) _

/-! ## Where requests go -/

/-- A request of an operation goes to the address of the platform followed by the path of the
operation, with the query of the operation. -/
theorem exists_url_of_request {client : Client} {settings : Settings}
    (hsettings : client.settings = settings) {sending : Sending}
    (hrequest : client.request sending.operation sending.listing = .ok sending.request) :
    ∃ base, Http.Url.parse? (settings.apiBase ++ sending.path) = some base ∧
      sending.request.url =
        base.withQuery (sending.operation.call sending.listing).query := by
  obtain ⟨token, -, hbuild⟩ := Client.exists_token_of_request hrequest
  obtain ⟨base, hbase, heq⟩ := Client.exists_base_of_build hbuild
  exact ⟨base, hsettings ▸ hbase, congrArg Http.Request.url heq⟩

/-- A request of a token goes to the address of the platform followed by a path of its own. -/
theorem url_of_tokenRequest {client : Client} {settings : Settings}
    (hsettings : client.settings = settings) {request : Http.Request}
    (hrequest : client.tokenRequest = .ok request) :
    Http.Url.parse? (settings.apiBase ++ (Client.tokenCall settings).path) =
      some request.url := by
  obtain ⟨base, hbase, rfl⟩ := Client.exists_base_of_build hrequest
  rw [hsettings] at hbase
  exact hbase

/-- A server with masters, in every run from its start. The record of what jobs send is complete
and holds the operation that each request was built for; the request goes to the address of the
platform followed by the path of this operation. A request for the administration of chats is sent
only while a text message of a master is worked on. A message of anybody else leads to one look-up
of the masters and one reply at most, a remote call never to the administration of chats, and what
is sent besides are requests of a token, which go elsewhere. -/
theorem chats_administered_by_masters {config : Config} {session : Session}
    (hcreate : Session.create config = .ok session) (hmasters : config.settings.masters ≠ [])
    (occurrences : List Occurrence) :
    ((Session.sendings session occurrences).map (fun sent => (sent.1, sent.2.request)) =
        (Session.run session occurrences).1.filterMap Effect.sent? ∧
      ∀ sent ∈ Session.sendings session occurrences,
        (∃ client : Client, client.settings = config.settings ∧
          client.request sent.2.operation sent.2.listing = .ok sent.2.request) ∧
        ∃ base, Http.Url.parse? (config.settings.apiBase ++ sent.2.path) = some base ∧
          sent.2.request.url =
            base.withQuery (sent.2.operation.call sent.2.listing).query) ∧
    (∀ place sending, (place, sending) ∈ Session.sendings session occurrences →
      sending.path ∈ chatPaths →
      ∃ incoming message, (arrivals occurrences)[place]? = some incoming ∧
        incoming.Brings message ∧ message.author ∈ config.settings.masters) ∧
    (∀ place incoming message, (arrivals occurrences)[place]? = some incoming →
      incoming.Brings message → message.author ∉ config.settings.masters →
      ∃ lookup reply : List Operation,
        (Agenda.sentAt place (Session.sendings session occurrences)).map (·.operation) =
          lookup ++ reply ∧
        (lookup = [] ∨ lookup = [.users config.settings.masters]) ∧
        (reply = [] ∨ ∃ text, reply = [.sendText message.replyChat text])) ∧
    (∀ place incoming, (arrivals occurrences)[place]? = some incoming →
      incoming.path = "/jsonrpc/" →
      ∀ sending ∈ Agenda.sentAt place (Session.sendings session occurrences),
        sending.path ∉ chatPaths) ∧
    (Client.tokenCall config.settings).path ∉ chatPaths ∧
    ∀ request, .sendRefresh request ∈ (Session.run session occurrences).1 →
      (∃ client : Client, client.settings = config.settings ∧
        client.tokenRequest = .ok request) ∧
      Http.Url.parse? (config.settings.apiBase ++ (Client.tokenCall config.settings).path) =
        some request.url := by
  obtain ⟨hfresh, hsettings⟩ := Session.create_fresh hcreate
  have hguest {message : Message} (houtside : message.author ∉ config.settings.masters) :
      session.client.settings.isMaster message.author = false := by
    rw [hsettings]
    exact Bool.eq_false_iff.mpr fun hmaster => houtside ((isMaster_iff hmasters _).mp hmaster)
  have hadministration (place : Nat) (sending : Sending)
      (hmem : (place, sending) ∈ Session.sendings session occurrences)
      (hpath : sending.path ∈ chatPaths) :
      ∃ incoming message, (arrivals occurrences)[place]? = some incoming ∧
        incoming.Brings message ∧ message.author ∈ config.settings.masters := by
    have hsent := Agenda.mem_sentAt_iff.mpr hmem
    rcases Session.sentAt_cases hfresh place occurrences with
      ⟨-, hnothing⟩ | ⟨incoming, client, turns, hincoming, -, -, hwork⟩
    · rw [hnothing] at hsent
      cases hsent
    rw [hwork] at hsent
    rcases handle_cases session.client.settings incoming with
      ⟨message, hbrings⟩ | ⟨-, hremote⟩ | ⟨response, hresponse⟩
    · refine ⟨incoming, message, hincoming, hbrings, ?_⟩
      by_contra houtside
      exact not_mem_chatPaths_for_guest hbrings (hguest houtside) client turns sending hsent hpath
    · exact absurd hpath (not_mem_chatPaths_for_remoteCall hremote client turns sending hsent)
    · have hnothing : Session.workOf (.respond response) = .done none := rfl
      rw [hresponse, hnothing, Job.sendingsFrom, Job.start, Job.sendings_finished] at hsent
      cases hsent
  refine ⟨⟨Session.sendings_requests session occurrences, ?_⟩, hadministration, ?_, ?_, ?_, ?_⟩
  -- every request is built for its operation
  · rintro ⟨place, sending⟩ hmem
    have hsent := Agenda.mem_sentAt_iff.mpr hmem
    rcases Session.sentAt_cases hfresh place occurrences with
      ⟨-, hnothing⟩ | ⟨incoming, client, turns, -, hclient, hturns, hwork⟩
    · rw [hnothing] at hsent
      cases hsent
    · rw [hwork] at hsent
      rw [← hclient] at hturns
      rw [← hsettings, ← hclient]
      obtain ⟨builder, hbuilder, hrequest⟩ := Job.sendingsFrom_built hturns _ sending hsent
      exact ⟨⟨builder, hbuilder, hrequest⟩, exists_url_of_request hbuilder hrequest⟩
  -- a message of a guest leads to one look-up and one reply at most
  · intro place incoming message hincoming hbrings houtside
    rcases Session.sentAt_cases hfresh place occurrences with
      ⟨hnone, -⟩ | ⟨incoming', client, turns, hincoming', -, -, hwork⟩
    · rw [hincoming] at hnone
      cases hnone
    · rw [hincoming] at hincoming'
      obtain rfl := Option.some.inj hincoming'
      rw [hwork, ← hsettings]
      exact sent_for_guest hbrings (hguest houtside) client turns
  -- a remote call stands at another path than the messages
  · intro place incoming hincoming hpath sending hsent hchat
    obtain ⟨incoming', message, hincoming', hbrings, -⟩ :=
      hadministration place sending (Agenda.mem_sentAt_iff.mp hsent) hchat
    rw [hincoming] at hincoming'
    obtain rfl := Option.some.inj hincoming'
    exact absurd (hpath.symm.trans hbrings.2.1) (by decide)
  · have htoken : "/auth/v3/tenant_access_token/internal/" ∉ chatPaths := by decide
    exact htoken
  · intro request hmem
    rw [← hsettings]
    obtain ⟨client, hclient, hrequest⟩ := Session.refresh_built hmem
    exact ⟨⟨client, hclient, hrequest⟩, url_of_tokenRequest hclient hrequest⟩

/-- A configuration with one master. -/
def guardedConfig : Config :=
  .ofSettings ((Settings.ofCredentials "cli_1" "secret").withMasters "ou_1")

/-- A server with one master can be started, and only the messages of this master lead to the
administration of chats. -/
theorem guarded_by_one_master :
    ∃ session, Session.create guardedConfig = .ok session ∧
      ∀ occurrences place sending, (place, sending) ∈ Session.sendings session occurrences →
        sending.path ∈ chatPaths →
        ∃ incoming message, (arrivals occurrences)[place]? = some incoming ∧
          incoming.Brings message ∧ message.author ∈ guardedConfig.settings.masters := by
  have hcreate : Session.create guardedConfig =
      .ok (Agenda.ofClient ⟨guardedConfig.settings, none⟩) := by
    rfl
  have hmasters : guardedConfig.settings.masters ≠ [] := by decide +kernel
  exact ⟨_, hcreate, fun occurrences =>
    (chats_administered_by_masters hcreate hmasters occurrences).2.1⟩

end ChatSteward.Server
