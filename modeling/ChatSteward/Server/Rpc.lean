import ChatSteward.Json.Record
import ChatSteward.Platform.Operation
import ChatSteward.Server.Response

/-!
# Remote calls

Other programs push messages into chats by remote calls: an object with a method, parameters and
an id that is returned with the result. Only the first parameter counts, and it may stand alone
where it is an object. A call leads to one operation of the platform at most.

## Main definitions

* `RemoteCall` — a call
* `RemoteFault` — why a call fails
* `RemoteCall.firstParameter` — the parameter that counts
* `RemoteCall.operation` — the operation that a call leads to
* `RemoteCall.dispatch` — a call carried out
* `answerRemoteCall` — the response to the body of a request
-/

namespace ChatSteward.Server

open Json (Record Decoder Value)
open Platform (Consultation Failure Operation Post)

/-- A call. -/
structure RemoteCall where
  method : String
  parameters : Value
  id : Value
deriving DecidableEq

/-- How a call is decoded. -/
def RemoteCall.record : Record RemoteCall where
  title := "struct RpcRequest"
  fields :=
    [.required "method" Decoder.text fun method call => { call with method },
     .defaulted "params" Decoder.value fun parameters call => { call with parameters },
     .defaulted "id" Decoder.value fun id call => { call with id }]
  start := ⟨"", .null, .null⟩

/-- Why a call fails. -/
inductive RemoteFault where
  /-- There is no such method. -/
  | unknownMethod (name : String)
  /-- The name is not made of a service and a method. -/
  | illFormed (name : String)
  /-- It is not said which chat is meant. -/
  | missingChat
  | invalidParameters (detail : String)
  /-- The platform fails. -/
  | platform (failure : Failure)
deriving DecidableEq, Repr

/-- The text of a fault. -/
def RemoteFault.message : RemoteFault → String
  | .unknownMethod name => "rpc: can't find method " ++ name
  | .illFormed name => "rpc: service/method request ill-formed: " ++ name
  | .missingChat => "please specify chat id"
  | .invalidParameters detail => "invalid params: " ++ detail
  | .platform failure => failure.message

/-! ## Parameters -/

/-- The parameters of a call that sends text. -/
structure TextParameters where
  chat : String
  content : String

/-- How they are decoded. -/
def TextParameters.record : Record TextParameters where
  title := "struct SendMessageArgs"
  fields :=
    [.defaulted "chat_id" Decoder.text fun chat parameters => { parameters with chat },
     .defaulted "content" Decoder.text fun content parameters => { parameters with content }]
  start := ⟨"", ""⟩

/-- The parameters of a call that sends a post. -/
structure PostParameters where
  chat : String
  post : Post

/-- How they are decoded. -/
def PostParameters.record : Record PostParameters where
  title := "struct SendPostArgs"
  fields :=
    [.defaulted "chat_id" Decoder.text fun chat parameters => { parameters with chat },
     .defaulted "post" Post.decoder fun post parameters => { parameters with post }]
  start := ⟨"", .empty⟩

/-- The first of a list of parameters, or an object that stands alone. -/
def firstParameter : Value → Except RemoteFault Value
  | .array (first :: _) => .ok first
  | .object members => .ok (.object members)
  | other => .error (.invalidParameters other.written)

/-- The parameters of a call as a record. -/
def decodeParameters {σ : Type} (record : Record σ) (parameters : Value) :
    Except RemoteFault σ :=
  match firstParameter parameters with
  | .error fault => .error fault
  | .ok first =>
    match record.decoder.ofValue first with
    | .ok decoded => .ok decoded
    | .error cause => .error (.invalidParameters cause.description)

/-! ## Calls -/

/-- The text before and after the first point of a name. -/
def splitName (name : String) : Option (String × String) :=
  match name.toList.dropWhile (· ≠ '.') with
  | [] => none
  | _ :: method => some (String.ofList (name.toList.takeWhile (· ≠ '.')), String.ofList method)

namespace RemoteCall

/-- The text that a call sends. -/
def sendText (call : RemoteCall) : Except RemoteFault Operation :=
  match decodeParameters TextParameters.record call.parameters with
  | .error fault => .error fault
  | .ok parameters =>
    if parameters.chat.isEmpty then .error .missingChat
    else .ok (.sendText parameters.chat parameters.content)

/-- The post that a call sends. -/
def sendPost (call : RemoteCall) : Except RemoteFault Operation :=
  match decodeParameters PostParameters.record call.parameters with
  | .error fault => .error fault
  | .ok parameters =>
    if parameters.chat.isEmpty then .error .missingChat
    else .ok (.sendPost parameters.chat parameters.post)

/-- The operation that a call leads to. -/
def operation (call : RemoteCall) : Except RemoteFault Operation :=
  match splitName call.method with
  | none => .error (.illFormed call.method)
  | some (service, method) =>
    if service ≠ "Lark" then .error (.unknownMethod call.method)
    else if method = "SendMessage" then call.sendText
    else if method = "SendPost" then call.sendPost
    else .error (.unknownMethod call.method)

/-- A call carried out. -/
def dispatch (call : RemoteCall) : Consultation (Except RemoteFault Unit) :=
  match call.operation with
  | .error fault => .done (.error fault)
  | .ok operation =>
    .ask operation fun
      | .ok _ => .done (.ok ())
      | .error failure => .done (.error (.platform failure))

end RemoteCall

/-! ## Results -/

/-- The body of a result: the id of the call, and either a result or an error. -/
def resultBody (id : Value) : Except RemoteFault Unit → Value
  | .ok () => .object [("id", id), ("result", .boolean true), ("error", .null)]
  | .error fault => .object [("id", id), ("result", .null), ("error", .text fault.message)]

/-- The response to the body of a request, which may be no call at all. -/
def answerRemoteCall (body : List UInt8) : Consultation Response :=
  match RemoteCall.record.decoder.decode body with
  | .error fault =>
    .done (.ofJson .badRequest
      (resultBody .null (.error (.invalidParameters fault.message))))
  | .ok call =>
    call.dispatch.bind fun result => .done (.ofJson .ok (resultBody call.id result))

end ChatSteward.Server
