import ChatSteward.Bot.Tables
import ChatSteward.Event.Envelope
import ChatSteward.Http.Target
import ChatSteward.Server.Rpc

/-!
# The router

Requests to the server by path and method: events of the platform, remote calls, and a sign of
life. An event is acknowledged at once; a text message in it is worked on afterwards, and ends
with one reply to its chat. Everything else is not found.

## Main definitions

* `Incoming` — a request to the server
* `Handling` — a response with work to be done afterwards, or work before a response
* `replyToMessage` — the work on a text message
* `handle` — how a request is handled
-/

namespace ChatSteward.Server

open Event (Envelope Message)
open Platform (Consultation Settings)

/-- A request to the server; the target is the path with a query and a fragment, or a whole
address. -/
structure Incoming where
  method : String
  target : String
  body : List UInt8
deriving DecidableEq, Repr

/-- The path of a request. -/
def Incoming.path (incoming : Incoming) : String := Http.pathOfTarget incoming.target

/-- How a request is handled. -/
inductive Handling where
  /-- There is a response at once; the work follows. -/
  | atOnce (response : Response) (work : Consultation Unit)
  /-- The response is the result of the work. -/
  | later (work : Consultation Response)

/-- A response without any work. -/
def Handling.respond (response : Response) : Handling := .atOnce response (.done ())

/-- The work on a text message: its command is carried out, and the reply sent to its chat. -/
def replyToMessage (settings : Settings) (message : Message) : Consultation Unit :=
  (Bot.respond settings message.author message.command).bind fun reply =>
    .ask (.sendText message.replyChat reply) fun _ => .done ()

/-- How the body of an event request is handled. -/
def handleEvent (settings : Settings) (body : List UInt8) : Handling :=
  match Envelope.ofBody body with
  | .error _ => .respond .noContent
  | .ok envelope =>
    match envelope.kind with
    | .verification =>
      .respond (.ofJson .ok (.object [("challenge", .text envelope.challenge)]))
    | .callback =>
      match envelope.textMessage? with
      | some message => .atOnce .noContent (replyToMessage settings message)
      | none => .respond .noContent
    | .unknown _ => .respond .noContent

/-- How a request to which there is nothing is handled; one for the head alone gets no body. -/
def handleUnknown (incoming : Incoming) : Handling :=
  let response := Response.ofFault (.notFound incoming.path)
  .respond (if incoming.method = "HEAD" then response.withoutBody else response)

/-- How a request is handled. -/
def handle (settings : Settings) (incoming : Incoming) : Handling :=
  -- the sign of life answers to every method, everything else to one alone
  if incoming.path = "/204/" then .respond .noContent
  else if incoming.method ≠ "POST" then handleUnknown incoming
  else if incoming.path = "/events/" then handleEvent settings incoming.body
  else if incoming.path = "/jsonrpc/" then .later (answerRemoteCall incoming.body)
  else handleUnknown incoming

end ChatSteward.Server
