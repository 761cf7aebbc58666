import ChatSteward.Proofs.Json.Yields
import ChatSteward.Proofs.Server.Calls
import ChatSteward.Proofs.Server.Responses
import Mathlib.Logic.Basic

/-!
# Remote calls and their answers

A remote call makes the server send one message at most, and none unless the call leads to an
operation and a token is held. What is sent tells what the call tells. The answer comes when the
platform has answered, or at once if nothing could be sent; it returns the id of the call, and
either that the call succeeded or the text of the fault for which it failed.

## Main definitions

* `Client.IsPost` — the request that sends a post
* `RemoteCall.Succeeds`, `RemoteCall.Fails` — what becomes of a call
* `resultValue` — what the body of an answer tells
* `Returns` — how the id of a call is returned
* `Answers` — whether a response answers a call as the call deserves

## Main results

* `answerRemoteCall_undecodable`, `answerRemoteCall_refused`, `answerRemoteCall_leadsTo` — what is
  sent and answered in every case
* `remote_call_relayed` — what is sent
* `remote_call_answered` — what is answered
-/

namespace ChatSteward.Platform

open Json (Decoder Value)

/-! ## Posts to the platform -/

/-- What the body of a request that sends a post tells. -/
def postValue (chat : String) (post : Value) : Value :=
  .object
    [("chat_id", .text chat), ("content", .object [("post", post)]), ("msg_type", .text "post")]

/-- Whether a request sends a post to a chat: it shows the token of the client, and its body tells
the chat and something that is decoded as the post. -/
def Client.IsPost (client : Client) (chat : String) (post : Post) (request : Http.Request) : Prop :=
  ∃ token url body value, client.token = some token ∧
    Http.Url.parse? (client.settings.apiBase ++ "/message/v4/send/") = some url ∧
    request = ⟨.post, url, some ("Bearer " ++ token), some body⟩ ∧
    Decoder.value.decode (Text.encodeUtf8 body) = .ok (postValue chat value) ∧
    Post.decoder.ofValue value = .ok post

/-- The body of a request that sends a post, its members not yet in the order of their keys. -/
def postBody (chat : String) (post : Post) : Value :=
  .object
    [("chat_id", .text chat), ("msg_type", .text "post"),
      ("content", .object [("post", post.json)])]

theorem sorted_postBody (chat : String) (post : Post) :
    (postBody chat post).sorted = postValue chat post.json.sorted := by
  have hperm : [("chat_id", Value.text chat), ("msg_type", .text "post"),
      ("content", .object [("post", post.json.sorted)])].Perm
        [("chat_id", .text chat), ("content", .object [("post", post.json.sorted)]),
          ("msg_type", .text "post")] :=
    .cons _ (.swap _ _ [])
  have hrising : ["chat_id", "content", "msg_type"].Pairwise (· < ·) := by decide
  exact congrArg Value.object (Dictionary.ofPairs_eq_of_perm hperm hrising)

/-- The body of a request that sends a post tells the chat and the post, whatever the post is. -/
theorem decode_postBody (chat : String) (post : Post) :
    Decoder.value.decode (Text.encodeUtf8 (postBody chat post).sorted.written) =
      .ok (postValue chat post.json.sorted) := by
  have hpost := (post.restores 120).writable
  have hwritable : (postBody chat post).IsWritable Decoder.greatestDepth := by
    refine .object (List.forall_mem_cons.mpr ⟨.text _ chat, List.forall_mem_cons.mpr
      ⟨.text _ "post", List.forall_mem_singleton.mpr (.object ?_)⟩⟩)
    exact List.forall_mem_singleton.mpr hpost
  -- the text is read as the value, and that is sorted already
  rw [hwritable.sorted.decode, hwritable.sorted_sorted, sorted_postBody]

/-- A client that can send messages sends every post. -/
theorem Client.IsUsable.request_post {client : Client} (husable : client.IsUsable)
    (chat : String) (post : Post) :
    ∃ request, client.request (.sendPost chat post) .start = .ok request ∧
      client.IsPost chat post request := by
  obtain ⟨token, url, htoken, htext, hurl, hrequestable⟩ := husable
  refine ⟨⟨.post, url, some ("Bearer " ++ token), some (postBody chat post).sorted.written⟩, ?_,
    token, url, _, _, htoken, hurl, rfl, decode_postBody chat post, (post.restores 0).ofSorted⟩
  have hparse : Http.Url.parse? (client.settings.apiBase ++
      ((Operation.sendPost chat post).call .start).path) = some url := hurl
  have hquery : url.withQuery ((Operation.sendPost chat post).call .start).query = url := rfl
  simp only [Client.request, htoken, Client.build, hparse, hquery, Option.all_some, htext,
    hrequestable, not_true_eq_false, if_false]
  rfl

end ChatSteward.Platform

namespace ChatSteward.Server

open Dialogue (query)
open Json (Decoder Record Value)
open Platform (Answer Client Failure Job Operation Post Turn)

/-! ## Results -/

/-- What the body of an answer tells: the id of the call, and its result or its error. -/
def resultValue (id result error : Value) : Value :=
  .object [("error", error), ("id", id), ("result", result)]

theorem ofPairs_result (id result error : Value) :
    Dictionary.ofPairs [("id", id), ("result", result), ("error", error)] =
      [("error", error), ("id", id), ("result", result)] := by
  have hperm : [("id", id), ("result", result), ("error", error)].Perm
      [("error", error), ("id", id), ("result", result)] :=
    @List.perm_append_comm _ [("id", id), ("result", result)] _
  have hrising : ["error", "id", "result"].Pairwise (· < ·) := by decide
  exact Dictionary.ofPairs_eq_of_perm hperm hrising

/-- How an id is returned: as what its own text is read as, and so as the id itself if there are no
fractions in it. -/
structure Returns (id returned : Value) : Prop where
  read : Decoder.value.decode (Text.encodeUtf8 id.written) = .ok returned
  same : id.IsWhole → returned = id

/-- What an answer tells: its id is the one of the call, read again, and its result and error are
read as they are. -/
theorem exists_tells {id : Value} (hread : id.IsRead (Decoder.greatestDepth - 1)) :
    ∃ returned, Returns id returned ∧ ∀ {result error : Value},
      result.IsWritable (Decoder.greatestDepth - 1) →
      error.IsWritable (Decoder.greatestDepth - 1) → ∀ status : Http.Status,
      (Response.ofJson status
        (.object [("id", id), ("result", result), ("error", error)])).Tells
          (resultValue returned result.sorted error.sorted) := by
  obtain ⟨returned, hsame, hreads⟩ := hread.fits.exists_reads
  refine ⟨returned, ⟨?_, fun hwhole => (hsame hwhole).trans hread.sorted⟩, ?_⟩
  · rw [Value.encodeUtf8_written]
    exact Decoder.decode_of_reads (hreads 1) (Json.padded_self _)
  · intro result error hresult herror status
    have hobject : Json.Reads (Decoder.valueReader Decoder.greatestDepth)
        (Value.object [("id", id), ("result", result), ("error", error)]).bytes
        (resultValue returned result.sorted error.sorted) := by
      rw [resultValue, ← ofPairs_result]
      refine Value.reads_object
        (fun member => if member.1 = "id" then returned else member.2.sorted) ?_ ?_
      · exact List.forall_mem_cons.mpr ⟨hread.fits.isValue, List.forall_mem_cons.mpr
          ⟨hresult.isValue, List.forall_mem_singleton.mpr herror.isValue⟩⟩
      · exact List.forall_mem_cons.mpr ⟨hreads 0, List.forall_mem_cons.mpr
          ⟨hresult.reads, List.forall_mem_singleton.mpr herror.reads⟩⟩
    refine ⟨rfl, ?_⟩
    rw [Response.ofJson, Value.encodeUtf8_written]
    exact Decoder.decode_of_reads hobject (Json.padded_self _)

/-- An answer to a call that has succeeded. -/
theorem exists_tells_success {id : Value} (hread : id.IsRead (Decoder.greatestDepth - 1))
    (status : Http.Status) :
    ∃ returned, Returns id returned ∧
      (Response.ofJson status (resultBody id (.ok ()))).Tells
        (resultValue returned (.boolean true) .null) := by
  obtain ⟨returned, hreturns, htells⟩ := exists_tells hread
  exact ⟨returned, hreturns, htells (.boolean _ true) (.null _) status⟩

/-- An answer to a call that has failed. -/
theorem exists_tells_fault {id : Value} (hread : id.IsRead (Decoder.greatestDepth - 1))
    (fault : RemoteFault) (status : Http.Status) :
    ∃ returned, Returns id returned ∧
      (Response.ofJson status (resultBody id (.error fault))).Tells
        (resultValue returned .null (.text fault.message)) := by
  obtain ⟨returned, hreturns, htells⟩ := exists_tells hread
  exact ⟨returned, hreturns, htells (.null _) (.text _ fault.message) status⟩

/-! ## Ids -/

namespace RemoteCall

/-- The id of a call is a value that was read, be the call an object or an array. -/
theorem isRead_id {body : List UInt8} {call : RemoteCall}
    (hcall : RemoteCall.record.decoder.decode body = .ok call) :
    call.id.IsRead (Decoder.greatestDepth - 1) := by
  refine Json.Reader.Yields.of_decode (record.yields_decoder (Decoder.greatestDepth - 1)
    (fun call => call.id.IsRead (Decoder.greatestDepth - 1)) ?_ (.null _)) hcall
  intro field hfield
  simp only [record, List.mem_cons, List.not_mem_nil, or_false] at hfield
  -- the id is the only field that sets it
  rcases hfield with rfl | rfl | rfl
  · exact Json.Reader.Yields.map fun _ _ _ _ _ hid => hid
  · exact Json.Reader.Yields.map fun _ _ _ _ _ hid => hid
  · refine Json.Reader.Yields.map fun bytes id rest hread _ _ => ?_
    exact Value.yields_valueReader _ bytes id rest hread

theorem isExact_record : record.IsExact := by
  intro field hfield
  simp only [record, List.mem_cons, List.not_mem_nil, or_false] at hfield
  rcases hfield with rfl | rfl | rfl
  · exact Decoder.isExact_text.map _
  · exact Decoder.isExact_value.map _
  · exact Decoder.isExact_value.map _

/-- The id of a call in the form of an object is its member of this name, or null. -/
theorem id_of_isPart {text body : List UInt8} {members : List (String × List UInt8)}
    (hobject : Json.IsObject text members) (hpadded : Json.Padded text body)
    (hnodup : (members.map (·.1)).Nodup) {call : RemoteCall}
    (hcall : record.decoder.decode body = .ok call) {id : Value}
    (hpart : Json.IsPart (Decoder.value.reader (Decoder.greatestDepth - 1)) members "id" .null
      id) : call.id = id := by
  obtain ⟨change, hchanges, rfl⟩ :=
    Record.exists_changes_of_decode isExact_record hobject hpadded hcall
  have hfield : record.field? "id" =
      some (.defaulted "id" Decoder.value fun id call => { call with id }) := rfl
  refine hchanges.get_of_isPart RemoteCall.id hnodup hfield rfl (fun _ _ => rfl) ?_ hpart
  intro other hmem hne
  simp only [record, List.mem_cons, List.not_mem_nil, or_false] at hmem
  rcases hmem with rfl | rfl | rfl
  · exact Json.Field.leaves_of_set fun _ _ => rfl
  · exact Json.Field.leaves_of_set fun _ _ => rfl
  · exact absurd rfl hne

/-! ## What becomes of calls -/

/-- Whether the platform does what a call leads to, asked by a client in some turns. -/
def Succeeds (call : RemoteCall) (client : Client) (turns : List Turn) : Prop :=
  ∃ operation outcome, call.LeadsTo operation ∧
    Job.resultFrom client (query operation) turns = some (.ok outcome)

/-- Whether a call fails and how the fault is told: it is refused, or the platform does not do what
it leads to. -/
inductive Fails (call : RemoteCall) (client : Client) (turns : List Turn) : String → Prop where
  | refused {fault : RemoteFault} (hrefused : call.Refused fault) :
      Fails call client turns fault.message
  | platform {operation : Operation} {failure : Failure} (hleads : call.LeadsTo operation)
      (hresult : Job.resultFrom client (query operation) turns = some (.error failure)) :
      Fails call client turns failure.message

/-- What a call comes to when the platform has answered. -/
def verdict {operation : Operation} : Answer operation → Except RemoteFault Unit
  | .ok _ => .ok ()
  | .error failure => .error (.platform failure)

theorem dispatch_of_operation {call : RemoteCall} {operation : Operation}
    (hcall : call.operation = .ok operation) :
    call.dispatch = (query operation).bind fun answer => .done (verdict answer) := by
  rw [dispatch, hcall]
  refine congrArg (Dialogue.ask operation) (funext fun answer => ?_)
  cases answer <;> rfl

end RemoteCall

/-! ## Answers -/

section

variable {body : List UInt8} (client : Client) (turns : List Turn)

/-- What is no call at all is answered at once. -/
theorem answerRemoteCall_undecodable {fault : Json.Fault}
    (hfault : RemoteCall.record.decoder.decode body = .error fault) :
    Job.sendingsFrom client (answerRemoteCall body) turns = [] ∧
      Job.resultFrom client (answerRemoteCall body) turns =
        some (.ofJson .badRequest
          (resultBody .null (.error (.invalidParameters fault.message)))) := by
  rw [answerRemoteCall, hfault]
  exact ⟨Job.sendingsFrom_done client _ turns, Job.resultFrom_done client _ turns⟩

variable {call : RemoteCall} (hcall : RemoteCall.record.decoder.decode body = .ok call)

include hcall

/-- A call that is refused is answered at once. -/
theorem answerRemoteCall_refused {fault : RemoteFault} (hrefused : call.Refused fault) :
    Job.sendingsFrom client (answerRemoteCall body) turns = [] ∧
      Job.resultFrom client (answerRemoteCall body) turns =
        some (.ofJson .ok (resultBody call.id (.error fault))) := by
  rw [answerRemoteCall, hcall]
  simp only [RemoteCall.dispatch, hrefused.operation]
  exact ⟨Job.sendingsFrom_done client _ turns, Job.resultFrom_done client _ turns⟩

/-- A call that leads to an operation asks for it once, and is answered by what comes of it. -/
theorem answerRemoteCall_leadsTo {operation : Operation} (hleads : call.LeadsTo operation) :
    Job.sendingsFrom client (answerRemoteCall body) turns =
        ((client.request operation .start).toOption.toList.map
          fun request => ⟨operation, .start, request⟩) ∧
      Job.resultFrom client (answerRemoteCall body) turns =
        (Job.resultFrom client (query operation) turns).map fun answer =>
          .ofJson .ok (resultBody call.id (RemoteCall.verdict answer)) := by
  have hdispatch := RemoteCall.dispatch_of_operation hleads.operation
  rw [answerRemoteCall, hcall]
  simp only [hdispatch]
  -- both the verdict and the response are made of the answer alone
  constructor
  · rw [Job.sendingsFrom_map, Job.sendingsFrom_map,
      Job.sendingsFrom_query hleads.talks.1 hleads.talks.2]
  · rw [Job.resultFrom_map, Job.resultFrom_map, Option.map_map]
    rfl

end

/-- Remote calls are answered later. -/
theorem handle_remoteCall (settings : Platform.Settings) {incoming : Incoming}
    (hmethod : incoming.method = "POST") (hpath : incoming.path = "/jsonrpc/") :
    handle settings incoming = .later (answerRemoteCall incoming.body) := by
  have hsign : incoming.path ≠ "/204/" := by
    rw [hpath]
    decide
  have hevents : incoming.path ≠ "/events/" := by
    rw [hpath]
    decide
  rw [handle, if_neg hsign, if_neg (not_not_intro hmethod), if_neg hevents, if_pos hpath]

namespace RemoteCall

variable {call : RemoteCall} (client : Client) (turns : List Turn)

/-- A call that is refused fails for this reason alone. -/
theorem fails_iff_of_refused {fault : RemoteFault} (hrefused : call.Refused fault)
    (message : String) : call.Fails client turns message ↔ message = fault.message := by
  constructor
  · intro hfails
    cases hfails with
    | refused hother => rw [hother.unique hrefused]
    | platform hleads _ => exact absurd hrefused (hleads.not_refused fault)
  · rintro rfl
    exact .refused hrefused

theorem not_succeeds_of_refused {fault : RemoteFault} (hrefused : call.Refused fault) :
    ¬ call.Succeeds client turns := by
  rintro ⟨operation, outcome, hleads, -⟩
  exact hleads.not_refused fault hrefused

/-- A call that leads to an operation succeeds if the operation does. -/
theorem succeeds_iff_of_leadsTo {operation : Operation} (hleads : call.LeadsTo operation) :
    call.Succeeds client turns ↔
      ∃ outcome, Job.resultFrom client (query operation) turns = some (.ok outcome) := by
  constructor
  · rintro ⟨other, outcome, hother, hresult⟩
    obtain rfl := hleads.unique hother
    exact ⟨outcome, hresult⟩
  · rintro ⟨outcome, hresult⟩
    exact ⟨operation, outcome, hleads, hresult⟩

/-- A call that leads to an operation fails as the operation does. -/
theorem fails_iff_of_leadsTo {operation : Operation} (hleads : call.LeadsTo operation)
    (message : String) :
    call.Fails client turns message ↔
      ∃ failure, Job.resultFrom client (query operation) turns = some (.error failure) ∧
        message = failure.message := by
  constructor
  · intro hfails
    cases hfails with
    | refused hrefused => exact absurd hrefused (hleads.not_refused _)
    | platform hother hresult =>
      obtain rfl := hleads.unique hother
      exact ⟨_, hresult, rfl⟩
  · rintro ⟨failure, hresult, rfl⟩
    exact .platform hleads hresult

end RemoteCall

/-- Whether a response answers a call as the call deserves: it returns the id, and a result if the
call has succeeded, or the text of the fault for which it has failed. -/
structure Answers (call : RemoteCall) (client : Client) (turns : List Turn) (returned : Value)
    (response : Response) : Prop where
  status : response.status.code = 200
  either : Xor (call.Succeeds client turns) (∃ message, call.Fails client turns message)
  id : Returns call.id returned
  result : call.Succeeds client turns →
    response.Tells (resultValue returned (.boolean true) .null)
  error : ∀ message, call.Fails client turns message →
    response.Tells (resultValue returned .null (.text message))

/-- The answer to a call. -/
theorem answers_of_decode {body : List UInt8} {call : RemoteCall}
    (hcall : RemoteCall.record.decoder.decode body = .ok call) (client : Client)
    (turns : List Turn) :
    (Job.resultFrom client (answerRemoteCall body) turns = none ∧ turns = [] ∧
        ∃ operation request, call.LeadsTo operation ∧
          client.request operation .start = .ok request) ∨
      ∃ response returned, Job.resultFrom client (answerRemoteCall body) turns = some response ∧
        Answers call client turns returned response := by
  have hid := RemoteCall.isRead_id hcall
  -- a call that leads to an operation is answered by what comes of it, any other at once
  rcases call.leadsTo_or_refused with ⟨operation, hleads⟩ | ⟨fault, hrefused⟩
  · have hanswer := (answerRemoteCall_leadsTo client turns hcall hleads).2
    have hsucceeds := RemoteCall.succeeds_iff_of_leadsTo client turns hleads
    have hfails := RemoteCall.fails_iff_of_leadsTo client turns hleads
    rw [hanswer]
    cases hresult : Job.resultFrom client (query operation) turns with
    | none =>
      obtain ⟨hturns, request, hrequest⟩ :=
        (Job.resultFrom_query_eq_none_iff hleads.talks.1 hleads.talks.2 client turns).mp hresult
      exact .inl ⟨rfl, hturns, operation, request, hleads, hrequest⟩
    | some answer =>
      simp only [hresult, Option.some.injEq] at hsucceeds hfails
      cases answer with
      | ok outcome =>
        obtain ⟨returned, hreturns, htells⟩ := exists_tells_success hid .ok
        have hyes : call.Succeeds client turns := hsucceeds.mpr ⟨outcome, rfl⟩
        have hno (message : String) : ¬ call.Fails client turns message := by
          rw [hfails]
          rintro ⟨failure, heq, -⟩
          cases heq
        exact .inr ⟨_, returned, rfl,
          { status := rfl
            either := .inl ⟨hyes, fun ⟨message, hmessage⟩ => hno message hmessage⟩
            id := hreturns
            result := fun _ => htells
            error := fun message hmessage => absurd hmessage (hno message) }⟩
      | error failure =>
        obtain ⟨returned, hreturns, htells⟩ := exists_tells_fault hid (.platform failure) .ok
        have hyes : call.Fails client turns failure.message := (hfails _).mpr ⟨failure, rfl, rfl⟩
        have hno : ¬ call.Succeeds client turns := by
          rw [hsucceeds]
          rintro ⟨outcome, heq⟩
          cases heq
        refine .inr ⟨_, returned, rfl,
          { status := rfl
            either := .inr ⟨⟨_, hyes⟩, hno⟩
            id := hreturns
            result := fun hsuccess => absurd hsuccess hno
            error := fun message hmessage => ?_ }⟩
        obtain ⟨failure', heq, rfl⟩ := (hfails _).mp hmessage
        cases heq
        exact htells
  · have hanswer := (answerRemoteCall_refused client turns hcall hrefused).2
    have hno : ¬ call.Succeeds client turns :=
      RemoteCall.not_succeeds_of_refused client turns hrefused
    have hfails := RemoteCall.fails_iff_of_refused client turns hrefused
    obtain ⟨returned, hreturns, htells⟩ := exists_tells_fault hid fault .ok
    refine .inr ⟨_, returned, hanswer,
      { status := rfl
        either := .inr ⟨⟨_, .refused hrefused⟩, hno⟩
        id := hreturns
        result := fun hsuccess => absurd hsuccess hno
        error := fun message hmessage => ?_ }⟩
    rw [(hfails message).mp hmessage]
    exact htells

/-- A call that callers write is decoded as they mean it. -/
theorem decode_json (method : String) {parameters id : Value}
    (hparameters : parameters.IsWritable (Decoder.greatestDepth - 1))
    (hid : id.IsWritable (Decoder.greatestDepth - 1)) :
    RemoteCall.record.decoder.decode
        (Text.encodeUtf8 (RemoteCall.json ⟨method, parameters, id⟩).written) =
      .ok ⟨method, parameters.sorted, id.sorted⟩ :=
  (RemoteCall.restores method hparameters hid).decode

/-- A remote call that arrives while others are under way, and whatever the platform does. A body
that is no call is refused at once, with null for the id. A call is answered as soon as the
platform has answered, and at once if nothing could be sent; there is one answer, and its body is
read as an object of the id, the result and the error, whatever the id. The id is the one of the
call, which is the member of this name or null; only a fraction in it may be read as another one.
Every id that can be written can be returned. -/
theorem remote_call_answered (session : Session) {incoming : Incoming}
    (hmethod : incoming.method = "POST") (hpath : incoming.path = "/jsonrpc/")
    (later : List Occurrence) :
    let responses := Session.responsesAt session.jobs.length
      (Session.run session (.arrival incoming :: later)).1
    let turns := session.turnsAt session.jobs.length (.arrival incoming :: later)
    (∀ fault, RemoteCall.record.decoder.decode incoming.body = .error fault →
      ∃ response, responses = [response] ∧ response.status.code = 400 ∧
        response.Tells
          (resultValue .null .null (.text ("invalid params: " ++ fault.message)))) ∧
    (∀ call, RemoteCall.record.decoder.decode incoming.body = .ok call →
      (responses = [] → turns = [] ∧ ∃ operation request, call.LeadsTo operation ∧
        session.client.request operation .start = .ok request) ∧
      (∀ response ∈ responses,
        responses = [response] ∧ ∃ returned, Answers call session.client turns returned response) ∧
      ∀ text members id, Json.IsObject text members → Json.Padded text incoming.body →
        (members.map (·.1)).Nodup →
        Json.IsPart (Decoder.value.reader (Decoder.greatestDepth - 1)) members "id" .null id →
        call.id = id) ∧
    ∀ (method : String) (parameters id : Value),
      parameters.IsWritable (Decoder.greatestDepth - 1) →
      id.IsWritable (Decoder.greatestDepth - 1) →
      incoming.body = Text.encodeUtf8 (RemoteCall.json ⟨method, parameters, id⟩).written →
      ∃ call, RemoteCall.record.decoder.decode incoming.body = .ok call ∧
        call.id = id.sorted ∧ call.id.IsWhole := by
  intro responses turns
  have hresponses : responses =
      (Job.resultFrom session.client (answerRemoteCall incoming.body) turns).toList :=
    Session.responsesAt_later (handle_remoteCall _ hmethod hpath) later
  refine ⟨?_, ?_, ?_⟩
  · intro fault hfault
    obtain ⟨returned, hreturns, htells⟩ :=
      exists_tells_fault (.null _) (.invalidParameters fault.message) .badRequest
    rw [hreturns.same .null] at htells
    refine ⟨_, ?_, rfl, htells⟩
    rw [hresponses, (answerRemoteCall_undecodable session.client turns hfault).2]
    rfl
  · intro call hcall
    have hanswers := answers_of_decode hcall session.client turns
    refine ⟨?_, ?_, fun text members id hobject hpadded hnodup hpart =>
      RemoteCall.id_of_isPart hobject hpadded hnodup hcall hpart⟩
    · intro hnone
      rcases hanswers with ⟨-, hwaits⟩ | ⟨response, returned, hsome, -⟩
      · exact hwaits
      · rw [hresponses, hsome] at hnone
        cases hnone
    · intro response hmem
      rcases hanswers with ⟨hnone, -⟩ | ⟨answer, returned, hsome, hanswer⟩
      · rw [hresponses, hnone] at hmem
        cases hmem
      · rw [hresponses, hsome] at hmem ⊢
        obtain rfl := List.mem_singleton.mp hmem
        exact ⟨rfl, returned, hanswer⟩
  · intro method parameters id hparameters hid hbody
    have hcall := decode_json method hparameters hid
    rw [← hbody] at hcall
    exact ⟨_, hcall, rfl, hid.sorted.isWhole⟩

/-- A call with an object for its id. -/
def nestedCall : RemoteCall where
  method := "Lark.SendMessage"
  parameters := (TextParameters.json ⟨"oc_1", "done"⟩).sorted
  id := .object [("a", .text "\u0000"), ("b", .number (.integer (-7)))]

/-- The request that brings the call. Its id has two members under one key. -/
def nestedRequest : Incoming :=
  ⟨"POST", "/jsonrpc/?from=ci", Text.encodeUtf8
    ("\x7b\"id\":\x7b\"b\":[1,null],\"a\":\"\\u0000\",\"b\":-7\x7d," ++
      "\"method\":\"Lark.SendMessage\"," ++
      "\"params\":\x7b\"content\":\"done\",\"chat_id\":\"oc_1\"\x7d\x7d")⟩

/-- What the platform says when it has taken the message. -/
def nestedDelivery : Http.Delivery :=
  .answered ⟨.ok, [], Text.encodeUtf8 "\x7b\"data\":\x7b\"message_id\":\"om_1\"\x7d\x7d", true⟩

theorem nestedCall_isWhole : nestedCall.id.IsWhole := by
  refine .object (List.forall_mem_cons.mpr ⟨.text _, ?_⟩)
  exact List.forall_mem_singleton.mpr (.integer _)

/-- The platform takes the message, and the answer has the later one of the two members. -/
theorem remote_call_answered_nested :
    ∃ response : Response,
      Session.responsesAt 0 (Session.run readySession
          [.arrival nestedRequest, .delivery 0 nestedDelivery]).1 = [response] ∧
      response.status.code = 200 ∧
      response.Tells (resultValue nestedCall.id (.boolean true) .null) := by
  let turns : List Turn := [⟨readySession.client, nestedDelivery⟩]
  have hpath : nestedRequest.path = "/jsonrpc/" := by decide +kernel
  have hview : (RemoteCall.record.decoder.decode nestedRequest.body).toOption.map id =
      some nestedCall := by
    decide +kernel
  obtain ⟨_, hcall, rfl⟩ := Platform.exists_of_toOption_map hview
  have hturns : readySession.turnsAt readySession.jobs.length
      [.arrival nestedRequest, .delivery 0 nestedDelivery] = turns := by
    decide +kernel
  have hresult : Job.resultFrom readySession.client (query (Operation.sendText "oc_1" "done"))
      turns = some (.ok "om_1") := by
    decide +kernel
  have hsucceeds : nestedCall.Succeeds readySession.client turns :=
    ⟨_, _, .text rfl ⟨_, .alone _, (TextParameters.restores 0 ⟨"oc_1", "done"⟩).ofSorted⟩
      (by decide), hresult⟩
  obtain ⟨-, hanswer, -⟩ :=
    remote_call_answered readySession rfl hpath [.delivery 0 nestedDelivery]
  rw [hturns] at hanswer
  obtain ⟨hwaits, hanswers, -⟩ := hanswer _ hcall
  -- there is a turn, so there is an answer
  obtain ⟨response, hmem⟩ := List.exists_mem_of_ne_nil _ fun hnone => nomatch (hwaits hnone).1
  obtain ⟨hone, returned, hanswer⟩ := hanswers response hmem
  have htells := hanswer.result hsucceeds
  rw [hanswer.id.same nestedCall_isWhole] at htells
  exact ⟨response, hone, hanswer.status, htells⟩

/-! ## What is sent -/

theorem IsFirst.sorted {parameters first : Value} (hfirst : IsFirst parameters first) :
    IsFirst parameters.sorted first.sorted := by
  cases hfirst with
  | listed first more => exact .listed _ _
  | alone members => exact .alone _

section

variable {session : Session} {incoming : Incoming} (hmethod : incoming.method = "POST")
  (hpath : incoming.path = "/jsonrpc/") {call : RemoteCall}
  (hcall : RemoteCall.record.decoder.decode incoming.body = .ok call) (later : List Occurrence)

include hmethod hpath hcall

/-- What is sent for a call is the request of its operation, if it can be built. -/
theorem requestsAt_leadsTo {operation : Operation} (hleads : call.LeadsTo operation) :
    Session.requestsAt session.jobs.length
        (Session.run session (.arrival incoming :: later)).1 =
      (session.client.request operation .start).toOption.toList := by
  rw [Session.requestsAt_later (handle_remoteCall _ hmethod hpath),
    (answerRemoteCall_leadsTo session.client _ hcall hleads).1, List.map_map]
  exact List.map_id' _

theorem requestsAt_refused {fault : RemoteFault} (hrefused : call.Refused fault) :
    Session.requestsAt session.jobs.length
      (Session.run session (.arrival incoming :: later)).1 = [] := by
  rw [Session.requestsAt_later (handle_remoteCall _ hmethod hpath),
    (answerRemoteCall_refused session.client _ hcall hrefused).1]
  rfl

/-- A call with a text for a chat sends the text to it. -/
theorem requestsAt_text (husable : session.client.IsUsable) {chat text : String}
    (hchat : chat ≠ "") (hname : call.method = "Lark.SendMessage")
    (hfirst : IsFirst call.parameters (TextParameters.json ⟨chat, text⟩).sorted) :
    ∃ request, Session.requestsAt session.jobs.length
        (Session.run session (.arrival incoming :: later)).1 = [request] ∧
      session.client.IsMessage chat text request := by
  have hleads : call.LeadsTo (.sendText chat text) :=
    .text hname ⟨_, hfirst, (TextParameters.restores 0 ⟨chat, text⟩).ofSorted⟩ hchat
  obtain ⟨request, hrequest, hmessage⟩ := husable.request chat text
  refine ⟨request, ?_, hmessage⟩
  rw [requestsAt_leadsTo hmethod hpath hcall later hleads, hrequest]
  rfl

/-- A call with a post for a chat sends the post to it. -/
theorem requestsAt_post (husable : session.client.IsUsable) {chat : String} {post : Post}
    (hchat : chat ≠ "") (hname : call.method = "Lark.SendPost")
    (hfirst : IsFirst call.parameters (PostParameters.json ⟨chat, post⟩).sorted) :
    ∃ request, Session.requestsAt session.jobs.length
        (Session.run session (.arrival incoming :: later)).1 = [request] ∧
      session.client.IsPost chat post request := by
  have hleads : call.LeadsTo (.sendPost chat post) :=
    .post hname ⟨_, hfirst, (PostParameters.restores 0 ⟨chat, post⟩).ofSorted⟩ hchat
  obtain ⟨request, hrequest, hpost⟩ := husable.request_post chat post
  refine ⟨request, ?_, hpost⟩
  rw [requestsAt_leadsTo hmethod hpath hcall later hleads, hrequest]
  rfl

end

/-- A remote call that arrives while others are under way, and whatever the platform does. One
request at most is sent for it, and none unless the call leads to an operation and a token is held.
If the client can send messages, a call for a chat sends exactly the text or the post that its first
parameter is the JSON of, be the call written in any way or as callers write it. -/
theorem remote_call_relayed (session : Session) {incoming : Incoming}
    (hmethod : incoming.method = "POST") (hpath : incoming.path = "/jsonrpc/")
    (later : List Occurrence) :
    let sent := Session.requestsAt session.jobs.length
      (Session.run session (.arrival incoming :: later)).1
    sent.length ≤ 1 ∧
    (sent ≠ [] → ∃ call operation,
      RemoteCall.record.decoder.decode incoming.body = .ok call ∧ call.LeadsTo operation ∧
        session.client.token.isSome) ∧
    (session.client.IsUsable → ∀ chat, chat ≠ "" →
      ∀ call, RemoteCall.record.decoder.decode incoming.body = .ok call →
        (∀ text, call.method = "Lark.SendMessage" →
          IsFirst call.parameters (TextParameters.json ⟨chat, text⟩).sorted →
          ∃ request, sent = [request] ∧ session.client.IsMessage chat text request) ∧
        ∀ post, call.method = "Lark.SendPost" →
          IsFirst call.parameters (PostParameters.json ⟨chat, post⟩).sorted →
          ∃ request, sent = [request] ∧ session.client.IsPost chat post request) ∧
    (session.client.IsUsable → ∀ chat, chat ≠ "" →
      ∀ parameters id : Value, parameters.IsWritable (Decoder.greatestDepth - 1) →
        id.IsWritable (Decoder.greatestDepth - 1) →
        (∀ text, IsFirst parameters (TextParameters.json ⟨chat, text⟩) →
          incoming.body =
            Text.encodeUtf8 (RemoteCall.json ⟨"Lark.SendMessage", parameters, id⟩).written →
          ∃ request, sent = [request] ∧ session.client.IsMessage chat text request) ∧
        ∀ post, IsFirst parameters (PostParameters.json ⟨chat, post⟩) →
          incoming.body =
            Text.encodeUtf8 (RemoteCall.json ⟨"Lark.SendPost", parameters, id⟩).written →
          ∃ request, sent = [request] ∧ session.client.IsPost chat post request) := by
  intro sent
  -- whatever the body is, what is sent is nothing, or the request of the operation
  have hsent : (sent = [] ∨ ∃ call operation,
      RemoteCall.record.decoder.decode incoming.body = .ok call ∧ call.LeadsTo operation ∧
        sent = (session.client.request operation .start).toOption.toList) := by
    cases hdecode : RemoteCall.record.decoder.decode incoming.body with
    | error fault =>
      refine .inl ?_
      have hnothing := (answerRemoteCall_undecodable session.client
        (session.turnsAt session.jobs.length (.arrival incoming :: later)) hdecode).1
      exact (Session.requestsAt_later (handle_remoteCall _ hmethod hpath) later).trans
        (congrArg (List.map (·.request)) hnothing)
    | ok call =>
      rcases call.leadsTo_or_refused with ⟨operation, hleads⟩ | ⟨fault, hrefused⟩
      · exact .inr ⟨call, operation, rfl, hleads,
          requestsAt_leadsTo hmethod hpath hdecode later hleads⟩
      · exact .inl (requestsAt_refused hmethod hpath hdecode later hrefused)
  refine ⟨?_, ?_, ?_, ?_⟩
  · rcases hsent with hnone | ⟨call, operation, -, -, hone⟩
    · rw [hnone]
      exact Nat.zero_le 1
    · rw [hone]
      cases (session.client.request operation .start).toOption with
      | none => exact Nat.zero_le 1
      | some request => exact Nat.le_refl 1
  · intro hsome
    rcases hsent with hnone | ⟨call, operation, hdecode, hleads, hone⟩
    · exact absurd hnone hsome
    · refine ⟨call, operation, hdecode, hleads, ?_⟩
      by_contra hheld
      have hnone : session.client.token = none := by simpa using hheld
      rw [hone, Client.request_of_no_token hnone] at hsome
      exact hsome rfl
  · intro husable chat hchat call hcall
    exact ⟨fun text hname hfirst =>
        requestsAt_text hmethod hpath hcall later husable hchat hname hfirst,
      fun post hname hfirst =>
        requestsAt_post hmethod hpath hcall later husable hchat hname hfirst⟩
  · intro husable chat hchat parameters id hparameters hid
    constructor
    · intro text hfirst hbody
      have hcall := decode_json "Lark.SendMessage" hparameters hid
      rw [← hbody] at hcall
      exact requestsAt_text hmethod hpath hcall later husable hchat rfl hfirst.sorted
    · intro post hfirst hbody
      have hcall := decode_json "Lark.SendPost" hparameters hid
      rw [← hbody] at hcall
      exact requestsAt_post hmethod hpath hcall later husable hchat rfl hfirst.sorted

/-- A post with a quoted title, a mention and an image. -/
def releasePost : Post :=
  .ofBody "en_us" ⟨"\"1.0\"\n", [[.mention "ou_1"], [.image "img_1" 4294967295 0]]⟩

/-- The request of a call that sends the post, as callers write it. -/
def releaseRequest : Incoming :=
  ⟨"POST", "/jsonrpc/", Text.encodeUtf8 (RemoteCall.json
    ⟨"Lark.SendPost", .array [PostParameters.json ⟨"oc_1", releasePost⟩], .text "7"⟩).written⟩

/-- The post is sent once, and what becomes of it makes no difference. -/
theorem remote_call_relayed_release :
    ∃ request, Session.requestsAt 0
        (Session.run readySession [.arrival releaseRequest, .delivery 0 .timedOut]).1 = [request] ∧
      readySession.client.IsPost "oc_1" releasePost request := by
  have hpath : releaseRequest.path = "/jsonrpc/" := by decide +kernel
  have hparameters : Value.IsWritable (Decoder.greatestDepth - 1)
      (.array [PostParameters.json ⟨"oc_1", releasePost⟩]) :=
    .array (List.forall_mem_singleton.mpr (PostParameters.restores 119 _).writable)
  obtain ⟨-, -, -, hwritten⟩ :=
    remote_call_relayed readySession rfl hpath [.delivery 0 .timedOut]
  have hchat : "oc_1" ≠ "" := by decide
  obtain ⟨-, hpost⟩ :=
    hwritten readySession_isUsable "oc_1" hchat _ (.text "7") hparameters (.text _ "7")
  exact hpost releasePost (.listed _ []) (by rw [releaseRequest])

end ChatSteward.Server
