import ChatSteward.Platform.Endpoint

/-!
# Replies of the platform

Every reply of the platform is an envelope: a code, a text, and the data of the endpoint. A code
other than zero rejects the request, whatever the data; the exact shape of the data matters only
to the endpoint that asked.

## Main definitions

* `Reply`, `Reply.record` — an envelope around data
* `rejection?` — the rejection that a text holds, if it is an envelope with one
* `readBody` — the body that a request brought
* `Operation.receive` — what an operation makes of a body

## Main results

* `readResponse_ne_ok_of_not_success` — only an answer that accepts the request has a body to
  work with
-/

namespace ChatSteward.Platform

open Json (Record Decoder)

/-! ## Envelopes -/

/-- An envelope around data. -/
structure Reply (α : Type) where
  code : Int
  text : String
  data : Option α

namespace Reply

variable {α : Type}

/-- How an envelope is decoded. -/
def record (data : Decoder α) : Record (Reply α) where
  title := "struct Envelope"
  fields :=
    [.defaulted "code" Decoder.int64 fun code reply => { reply with code },
     .defaulted "msg" Decoder.text fun text reply => { reply with text },
     .elective "data" data.optional fun data reply => { reply with data }]
  start := ⟨0, "", none⟩

/-- The rejection in an envelope, if the code is not zero. -/
def rejection? (reply : Reply α) : Option Rejection :=
  if reply.code = 0 then none else some ⟨reply.code, reply.text⟩

/-- The envelope in a text, or a failure: the text is none, or it rejects the request. -/
def ofText (data : Decoder α) (text : String) : Except Failure (Reply α) :=
  match (record data).decoder.decode (Text.encodeUtf8 text) with
  | .error fault => .error (.ofFault fault)
  | .ok reply =>
    match reply.rejection? with
    | some rejection => .error rejection.failure
    | none => .ok reply

/-- The data in a text, which has to be there. -/
def dataOfText (data : Decoder α) (text : String) : Except Failure α :=
  match ofText data text with
  | .error failure => .error failure
  | .ok reply =>
    match reply.data with
    | some data => .ok data
    | none => .error (.invalidPayload "missing data in response")

end Reply

/-- The rejection that a text holds, if it is an envelope with one. -/
def rejection? (text : String) : Option Rejection :=
  match (Reply.record Decoder.ignored).decoder.decode (Text.encodeUtf8 text) with
  | .error _ => none
  | .ok reply => reply.rejection?

/-! ## Answers -/

/-- The seconds to wait when an answer does not say how long. -/
def defaultRetryAfter : Nat := 30

/-- A number of at most 64 bits, with or without a plus sign. -/
def parseSeconds? (text : String) : Option Nat :=
  let digits :=
    match text.toList with
    | '+' :: digits => digits
    | digits => digits
  if digits.isEmpty then none
  else
    match Net.readNatural 10 UInt64.size digits with
    | some (seconds, []) => some seconds
    | _ => none

/-- The seconds to wait after an answer that requests came too fast. -/
def retryAfter (response : Http.Response) : Nat :=
  ((response.header? "Retry-After").bind parseSeconds?).getD defaultRetryAfter

/-- The failure that an answer without success tells of. The platform often explains it in an
envelope; if not, the status and the body are all there is to tell. -/
def failureOf (status : Http.Status) (text : String) : Failure :=
  match rejection? text with
  | some rejection => rejection.failure
  | none =>
    let detail := status.text ++ ": " ++ text
    if status = .unauthorized ∨ status = .forbidden then .authentication detail
    else .rejected detail

/-- The body of an answer that accepts the request, or why there is none. -/
def readResponse (url : Http.Url) (response : Http.Response) : Except Failure String :=
  -- the body of such an answer does not matter, not even whether it came in whole
  if response.status = .tooManyRequests then .error (.rateLimited (retryAfter response))
  else if response.complete = false then
    .error (.invalidPayload ("error decoding response body for url (" ++ url.text ++ ")"))
  else
    let text := Text.decodeLossy response.body
    if response.status.isSuccess then .ok text else .error (failureOf response.status text)

/-- Only an answer that accepts the request has a body to work with. -/
theorem readResponse_ne_ok_of_not_success {url : Http.Url} {response : Http.Response}
    (hstatus : response.status.isSuccess = false) (text : String) :
    readResponse url response ≠ .ok text := by
  unfold readResponse
  split
  · simp
  · split <;> simp [hstatus]

/-- The body that a request brought, or why there is none. -/
def readBody (url : Http.Url) : Http.Delivery → Except Failure String
  | .refused =>
    .error (.network ("Connection failed: error sending request for url (" ++ url.text ++ ")"))
  | .dropped => .error (.network ("error sending request for url (" ++ url.text ++ ")"))
  | .timedOut => .error (.timeout ("error sending request for url (" ++ url.text ++ ")"))
  | .answered response => readResponse url response

/-! ## Data -/

/-- The id of a message that was sent. -/
def messageIdData : Decoder String :=
  Record.decoder
    { title := "struct MessageIdData"
      fields := [.required "message_id" Decoder.text fun id _ => id]
      start := "" }

/-- The id of a chat that was created. -/
def chatIdData : Decoder String :=
  Record.decoder
    { title := "struct ChatIdData"
      fields := [.required "chat_id" Decoder.text fun id _ => id]
      start := "" }

/-- A page of the listing of chats. -/
structure ChatPage where
  chats : List ChatSummary
  hasMore : Bool
  nextToken : String
deriving DecidableEq, Repr

/-- How a page is decoded. -/
def chatPageData : Decoder ChatPage :=
  Record.decoder
    { title := "struct ChatListData"
      fields :=
        [.defaulted "groups" ChatSummary.record.decoder.list fun chats page =>
           { page with chats },
         .defaulted "has_more" Decoder.boolean fun hasMore page => { page with hasMore },
         .defaulted "page_token" Decoder.text fun token page => { page with nextToken := token }]
      start := ⟨[], false, ""⟩ }

/-- The profiles of users. -/
def usersData : Decoder (List User) :=
  Record.decoder
    { title := "struct UserInfoData"
      fields := [.defaulted "user_infos" User.record.decoder.list fun users _ => users]
      start := [] }

/-! ## Operations -/

/-- What an operation makes of a body: an outcome, or the need for another page. -/
inductive Progress (operation : Operation) where
  | finished (outcome : operation.Outcome)
  | more (listing : Listing)

/-- The listing with one more page. It goes on as long as there is said to be more, under a
token other than the one that the page itself was asked for. -/
def Listing.extend (listing : Listing) (page : ChatPage) : Progress .listChats :=
  let chats := listing.chats ++ page.chats
  if page.hasMore = false ∨ page.nextToken.isEmpty ∨ page.nextToken = listing.token then
    .finished chats
  else .more ⟨chats, page.nextToken⟩

/-- What an operation makes of the body of an accepted answer. -/
def Operation.receive (listing : Listing) :
    (operation : Operation) → String → Except Failure (Progress operation)
  | .sendText .., body => (Reply.dataOfText messageIdData body).map .finished
  | .sendPost .., body => (Reply.dataOfText messageIdData body).map .finished
  | .createChat .., body => (Reply.dataOfText chatIdData body).map .finished
  | .addUsers .., body => (Reply.ofText Decoder.ignored body).map fun _ => .finished ()
  | .removeUsers .., body => (Reply.ofText Decoder.ignored body).map fun _ => .finished ()
  | .destroyChat .., body => (Reply.ofText Decoder.ignored body).map fun _ => .finished ()
  | .chatInfo .., body => (Reply.dataOfText ChatInfo.record.decoder body).map .finished
  | .listChats, body => (Reply.dataOfText chatPageData body).map listing.extend
  | .users .., body => (Reply.dataOfText usersData body).map .finished

end ChatSteward.Platform
