import ChatSteward.Proofs.Platform.Acceptance
import ChatSteward.Proofs.Json.Exactness

/-!
# What operations read

Every operation reads its replies alike: the body is an envelope around data of the operation's
own type, a rejection in it is the failure, and the data has to be there unless the operation
returns nothing. The operations differ in the type of the data and in what they conclude from it:
only the listing of chats may go on, with another page.

## Main definitions

* `Operation.Content`, `Operation.data` — what the data of an operation is, and its decoder
* `Operation.content?` — what an operation takes from an envelope
* `Operation.conclude` — what an operation makes of it
* `Operation.Gives` — a body that gives an operation what it looks for

## Main results

* `Operation.receive_eq` — all operations read their replies alike
* `Operation.receive_eq_ok_iff` — a body is received exactly if it gives something
* `Operation.isExact_data` — the data of every operation is read exactly
-/

namespace ChatSteward.Platform

open Json (Decoder Record)

namespace Operation

/-- What the data of an operation is. -/
@[reducible] def Content : Operation → Type
  | .sendText .. | .sendPost .. | .createChat .. => String
  | .addUsers .. | .removeUsers .. | .destroyChat .. => Unit
  | .chatInfo .. => ChatInfo
  | .listChats => ChatPage
  | .users .. => List User

/-- How the data of an operation is decoded. -/
def data : (operation : Operation) → Decoder operation.Content
  | .sendText .. | .sendPost .. => messageIdData
  | .createChat .. => chatIdData
  | .addUsers .. | .removeUsers .. | .destroyChat .. => Decoder.ignored
  | .chatInfo .. => ChatInfo.record.decoder
  | .listChats => chatPageData
  | .users .. => usersData

/-- What an operation takes from an envelope. One that returns nothing does not look at the
data. -/
def content? : (operation : Operation) → Reply operation.Content → Option operation.Content
  | .addUsers .., _ | .removeUsers .., _ | .destroyChat .., _ => some ()
  | .sendText .., reply | .sendPost .., reply | .createChat .., reply => reply.data
  | .chatInfo .., reply => reply.data
  | .listChats, reply => reply.data
  | .users .., reply => reply.data

/-- What an operation makes of what it looked for. -/
def conclude (listing : Listing) :
    (operation : Operation) → operation.Content → Progress operation
  | .sendText .., id | .sendPost .., id | .createChat .., id => .finished id
  | .addUsers .., _ | .removeUsers .., _ | .destroyChat .., _ => .finished ()
  | .chatInfo .., info => .finished info
  | .listChats, page => listing.extend page
  | .users .., profiles => .finished profiles

/-- Whether a body gives an operation what it looks for: it is an envelope without a rejection,
and its data is there unless the operation returns nothing. -/
def Gives (operation : Operation) (body : String) (content : operation.Content) : Prop :=
  ∃ reply, (Reply.record operation.data).decoder.decode (Text.encodeUtf8 body) = .ok reply ∧
    reply.code = 0 ∧ operation.content? reply = some content

/-! ## Bodies -/

/-- What is missing where data has to be there. -/
def missingData : Failure := .invalidPayload "missing data in response"

/-- What is made of data that has to be there. -/
theorem dataOfText_map {α β : Type} (data : Decoder α) (body : String) (progress : α → β) :
    (Reply.dataOfText data body).map progress =
      (Reply.ofText data body).bind fun reply =>
        reply.data.elim (.error missingData) fun content => .ok (progress content) := by
  rw [Reply.dataOfText]
  cases Reply.ofText data body with
  | error failure => rfl
  | ok reply =>
    obtain ⟨_, _, content⟩ := reply
    cases content <;> rfl

/-- All operations read their replies alike. -/
theorem receive_eq (operation : Operation) (listing : Listing) (body : String) :
    operation.receive listing body =
      (Reply.ofText operation.data body).bind fun reply =>
        (operation.content? reply).elim (.error missingData) fun content =>
          .ok (operation.conclude listing content) := by
  cases operation with
  | addUsers | removeUsers | destroyChat =>
    rw [receive, data]
    cases Reply.ofText Decoder.ignored body <;> rfl
  | _ => exact dataOfText_map _ body _

/-- A text that is no envelope is a failure of its own. -/
theorem receive_of_fault {operation : Operation} {body : String} {fault : Json.Fault}
    (hdecode : (Reply.record operation.data).decoder.decode (Text.encodeUtf8 body) = .error fault)
    (listing : Listing) : operation.receive listing body = .error (.ofFault fault) := by
  rw [receive_eq, Reply.ofText, hdecode]
  rfl

/-- A rejection is the failure, whatever the data. -/
theorem receive_of_rejection {operation : Operation} {body : String}
    {reply : Reply operation.Content}
    (hdecode : (Reply.record operation.data).decoder.decode (Text.encodeUtf8 body) = .ok reply)
    (hcode : reply.code ≠ 0) (listing : Listing) :
    operation.receive listing body = .error (Rejection.mk reply.code reply.text).failure := by
  rw [receive_eq, Reply.ofText, hdecode]
  simp only [Reply.rejection?, if_neg hcode]
  rfl

/-- Without a rejection the operation goes by what it takes from the envelope. -/
theorem receive_of_accepted {operation : Operation} {body : String}
    {reply : Reply operation.Content}
    (hdecode : (Reply.record operation.data).decoder.decode (Text.encodeUtf8 body) = .ok reply)
    (hcode : reply.code = 0) (listing : Listing) :
    operation.receive listing body =
      (operation.content? reply).elim (.error missingData) fun content =>
        .ok (operation.conclude listing content) := by
  rw [receive_eq, Reply.ofText, hdecode]
  simp only [Reply.rejection?, if_pos hcode]
  rfl

/-- A body is received exactly if it gives something. -/
theorem receive_eq_ok_iff {operation : Operation} {listing : Listing} {body : String}
    {progress : Progress operation} :
    operation.receive listing body = .ok progress ↔
      ∃ content, operation.Gives body content ∧ operation.conclude listing content = progress := by
  constructor
  · -- a fault, a rejection and missing data are failures, so none of them stood in the way
    intro hreceive
    cases hdecode : (Reply.record operation.data).decoder.decode (Text.encodeUtf8 body) with
    | error fault =>
      rw [receive_of_fault hdecode] at hreceive
      cases hreceive
    | ok reply =>
      by_cases hcode : reply.code = 0
      · rw [receive_of_accepted hdecode hcode] at hreceive
        cases hcontent : operation.content? reply with
        | none =>
          rw [hcontent] at hreceive
          cases hreceive
        | some content =>
          rw [hcontent] at hreceive
          exact ⟨content, ⟨reply, hdecode, hcode, hcontent⟩, Except.ok.inj hreceive⟩
      · rw [receive_of_rejection hdecode hcode] at hreceive
        cases hreceive
  · rintro ⟨content, ⟨reply, hdecode, hcode, hcontent⟩, rfl⟩
    rw [receive_of_accepted hdecode hcode, hcontent]
    rfl

/-! ## Exactness -/

theorem isExact_chatSummary : ChatSummary.record.IsExact := by
  intro field hmem
  simp only [ChatSummary.record, List.mem_cons, List.not_mem_nil, or_false] at hmem
  rcases hmem with rfl | rfl | rfl | rfl
  all_goals exact Decoder.isExact_text.map _

theorem isExact_chatMember : ChatMember.record.IsExact := by
  intro field hmem
  simp only [ChatMember.record, List.mem_cons, List.not_mem_nil, or_false] at hmem
  rcases hmem with rfl | rfl
  all_goals exact Decoder.isExact_text.map _

theorem isExact_chatInfo : ChatInfo.record.IsExact := by
  intro field hmem
  simp only [ChatInfo.record, List.mem_cons, List.not_mem_nil, or_false] at hmem
  rcases hmem with rfl | rfl | rfl | rfl | rfl
  case inr.inr.inr.inr =>
    exact (Decoder.isExact_list (Record.isExact_decoder isExact_chatMember)).map _
  all_goals exact Decoder.isExact_text.map _

theorem isExact_user : User.record.IsExact := by
  intro field hmem
  simp only [User.record, List.mem_cons, List.not_mem_nil, or_false] at hmem
  rcases hmem with rfl | rfl | rfl | rfl
  all_goals exact Decoder.isExact_text.map _

theorem isExact_messageIdData : messageIdData.IsExact := by
  refine Record.isExact_decoder fun field hmem => ?_
  rw [List.mem_singleton.mp hmem]
  exact Decoder.isExact_text.map _

theorem isExact_chatIdData : chatIdData.IsExact := by
  refine Record.isExact_decoder fun field hmem => ?_
  rw [List.mem_singleton.mp hmem]
  exact Decoder.isExact_text.map _

theorem isExact_chatPageData : chatPageData.IsExact := by
  refine Record.isExact_decoder fun field hmem => ?_
  simp only [List.mem_cons, List.not_mem_nil, or_false] at hmem
  rcases hmem with rfl | rfl | rfl
  · exact (Decoder.isExact_list (Record.isExact_decoder isExact_chatSummary)).map _
  · exact Decoder.isExact_boolean.map _
  · exact Decoder.isExact_text.map _

theorem isExact_usersData : usersData.IsExact := by
  refine Record.isExact_decoder fun field hmem => ?_
  rw [List.mem_singleton.mp hmem]
  exact (Decoder.isExact_list (Record.isExact_decoder isExact_user)).map _

/-- The data of every operation is read exactly. -/
theorem isExact_data (operation : Operation) : operation.data.IsExact := by
  cases operation with
  | sendText | sendPost => exact isExact_messageIdData
  | createChat => exact isExact_chatIdData
  | addUsers | removeUsers | destroyChat => exact Decoder.isExact_ignored
  | chatInfo => exact Record.isExact_decoder isExact_chatInfo
  | listChats => exact isExact_chatPageData
  | users => exact isExact_usersData

end Operation

end ChatSteward.Platform
