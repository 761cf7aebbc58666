import ChatSteward.Proofs.Json.Positions
import ChatSteward.Proofs.Server.RemoteCalls

/-!
# The parameter that counts

Of the parameters of a remote call the first one counts, and an object counts as well if it stands
alone. So calls whose parameters differ in the others only, or in whether an object stands alone,
come to the same: the same consultation of the platform, and hence the same requests and the same
result, whatever the platform does. A call that takes parameters is refused if there is no first
one, and so it is if its parameters are left out, since they are null then.

## Main definitions

* `Lacks` — parameters none of which counts
* `LeavesOut` — bodies that leave the parameters out

## Main results

* `RemoteCall.dispatch_eq_of_isFirst`, `answerRemoteCall_eq_of_isFirst` — calls with the same first
  parameter
* `RemoteCall.refused_of_lacks` — calls without one
* `RemoteCall.parameters_of_leavesOut` — parameters that are left out
* `first_parameter_decides` — all of this of every call, and of every request that brings it
-/

namespace ChatSteward.Server

open Json (Decoder Record Value)
open Platform (Client Job Turn)

/-! ## The same first parameter -/

theorem decodeParameters_eq_of_isFirst {σ : Type} {record : Record σ}
    {parameters others first : Value} (hfirst : IsFirst parameters first)
    (hothers : IsFirst others first) :
    decodeParameters record parameters = decodeParameters record others := by
  rw [decodeParameters, decodeParameters, firstParameter_eq_ok_iff.mpr hfirst,
    firstParameter_eq_ok_iff.mpr hothers]

namespace RemoteCall

/-- Calls of one method with the same first parameter consult the platform alike. -/
theorem dispatch_eq_of_isFirst {call other : RemoteCall} {first : Value}
    (hmethod : call.method = other.method) (hfirst : IsFirst call.parameters first)
    (hother : IsFirst other.parameters first) : call.dispatch = other.dispatch := by
  have htext : call.sendText = other.sendText := by
    rw [sendText, sendText, decodeParameters_eq_of_isFirst hfirst hother]
  have hpost : call.sendPost = other.sendPost := by
    rw [sendPost, sendPost, decodeParameters_eq_of_isFirst hfirst hother]
  rw [dispatch, dispatch, operation, operation, hmethod, htext, hpost]

end RemoteCall

/-- So do the bodies of such calls, and with the same id they are answered alike. -/
theorem answerRemoteCall_eq_of_isFirst {body other : List UInt8} {method : String}
    {parameters others id first : Value}
    (hcall : RemoteCall.record.decoder.decode body = .ok ⟨method, parameters, id⟩)
    (hother : RemoteCall.record.decoder.decode other = .ok ⟨method, others, id⟩)
    (hfirst : IsFirst parameters first) (hothers : IsFirst others first) :
    answerRemoteCall body = answerRemoteCall other := by
  have hdispatch : RemoteCall.dispatch ⟨method, parameters, id⟩ =
      RemoteCall.dispatch ⟨method, others, id⟩ :=
    RemoteCall.dispatch_eq_of_isFirst rfl hfirst hothers
  rw [answerRemoteCall, answerRemoteCall, hcall, hother]
  simp only [hdispatch]

/-- A session does the same for requests that are handled alike. -/
theorem Session.run_arrival_eq {session : Session} {incoming other : Incoming}
    (hhandle : handle session.client.settings incoming = handle session.client.settings other)
    (later : List Occurrence) :
    run session (.arrival incoming :: later) = run session (.arrival other :: later) := by
  have harrive : arrive session incoming = arrive session other := by
    rw [arrive, arrive, hhandle]
  rw [run, run, step, step, harrive]

/-! ## No first parameter -/

/-- Parameters none of which counts: an empty list, and what is neither a list nor an object. -/
inductive Lacks : Value → Prop where
  | empty : Lacks (.array [])
  | null : Lacks .null
  | boolean (b : Bool) : Lacks (.boolean b)
  | number (n : Json.Number) : Lacks (.number n)
  | text (s : String) : Lacks (.text s)

theorem lacks_iff {parameters : Value} :
    Lacks parameters ↔ ∀ first, ¬ IsFirst parameters first := by
  constructor
  · intro hlacks first hfirst
    cases hfirst <;> cases hlacks
  · intro hnone
    cases parameters with
    | null => exact .null
    | boolean b => exact .boolean b
    | number n => exact .number n
    | text s => exact .text s
    | array items =>
      cases items with
      | nil => exact .empty
      | cons first more => exact absurd (.listed first more) (hnone first)
    | object members => exact absurd (.alone members) (hnone _)

namespace RemoteCall

/-- A method that takes parameters refuses to go without. -/
theorem refused_of_lacks {call : RemoteCall}
    (hmethod : call.method = "Lark.SendMessage" ∨ call.method = "Lark.SendPost")
    (hlacks : Lacks call.parameters) :
    call.Refused (.invalidParameters call.parameters.written) := by
  rcases hmethod with htext | hpost
  · exact .textParameters htext (.none (lacks_iff.mp hlacks))
  · exact .postParameters hpost (.none (lacks_iff.mp hlacks))

theorem dispatch_of_refused {call : RemoteCall} {fault : RemoteFault}
    (hrefused : call.Refused fault) : call.dispatch = .done (.error fault) := by
  rw [dispatch, hrefused.operation]

end RemoteCall

/-! ## Parameters that are left out -/

/-- Whether a body leaves the parameters out: it is an object without a member of this name, or an
array of the method alone. -/
inductive LeavesOut (body : List UInt8) : Prop where
  | object {text : List UInt8} {members : List (String × List UInt8)}
      (hobject : Json.IsObject text members) (hpadded : Json.Padded text body)
      (hnot : "params" ∉ members.map (·.1))
  | array {text method : List UInt8} (harray : Json.IsArray text [method])
      (hpadded : Json.Padded text body)

namespace RemoteCall

/-- No field but that of the parameters sets them. -/
theorem leaves_parameters {field : Json.Field RemoteCall} (hfield : field ∈ record.fields)
    (hname : field.name ≠ "params") : field.Leaves RemoteCall.parameters := by
  simp only [record, List.mem_cons, List.not_mem_nil, or_false] at hfield
  rcases hfield with rfl | rfl | rfl
  · exact Json.Field.leaves_of_set fun _ _ => rfl
  · exact absurd rfl hname
  · exact Json.Field.leaves_of_set fun _ _ => rfl

/-- Parameters that are left out are null. -/
theorem parameters_of_leavesOut {body : List UInt8} (hleaves : LeavesOut body) {call : RemoteCall}
    (hcall : record.decoder.decode body = .ok call) : call.parameters = .null := by
  cases hleaves with
  | object hobject hpadded hnot =>
    obtain ⟨change, hchanges, rfl⟩ :=
      Record.exists_changes_of_decode isExact_record hobject hpadded hcall
    refine hchanges.get_of_not_mem RemoteCall.parameters ?_ hnot record.start
    intro key field value set hkey hne hset state
    obtain ⟨hmem, rfl⟩ := Record.mem_of_field? hkey
    exact leaves_parameters hmem hne _ _ _ hset state
  | array harray hpadded =>
    obtain ⟨change, hplaces, rfl⟩ :=
      Record.exists_places_of_decode isExact_record harray hpadded hcall
    refine hplaces.get_of_leaves RemoteCall.parameters ?_ record.start
    intro field hfield
    refine leaves_parameters (List.mem_of_mem_take hfield) ?_
    -- the only item is that of the first field
    obtain rfl := List.mem_singleton.mp hfield
    decide

end RemoteCall

/-! ## Every call -/

/-- Whatever the method and the platform, a call comes to the same with further parameters as
without them, and with an object as its only parameter as with the object alone: in the result, in
what is sent, and in all that a session does for requests that bring such calls. If none of the
parameters counts, or they are left out, a text and a post are refused with nothing sent. -/
theorem first_parameter_decides :
    (∀ (method : String) (id first : Value) (further : List Value) (client : Client)
        (turns : List Turn),
      let listed : RemoteCall := ⟨method, .array (first :: further), id⟩
      let single : RemoteCall := ⟨method, .array [first], id⟩
      let alone : RemoteCall := ⟨method, first, id⟩
      (Job.resultFrom client listed.dispatch turns = Job.resultFrom client single.dispatch turns ∧
        Job.sendingsFrom client listed.dispatch turns =
          Job.sendingsFrom client single.dispatch turns) ∧
      ((∃ members, first = .object members) →
        Job.resultFrom client listed.dispatch turns = Job.resultFrom client alone.dispatch turns ∧
          Job.sendingsFrom client listed.dispatch turns =
            Job.sendingsFrom client alone.dispatch turns)) ∧
    (∀ (session : Session) (incoming other : Incoming) (later : List Occurrence) (method : String)
        (parameters others id first : Value),
      incoming.method = "POST" → incoming.path = "/jsonrpc/" →
      other.method = "POST" → other.path = "/jsonrpc/" →
      RemoteCall.record.decoder.decode incoming.body = .ok ⟨method, parameters, id⟩ →
      RemoteCall.record.decoder.decode other.body = .ok ⟨method, others, id⟩ →
      IsFirst parameters first → IsFirst others first →
      Session.run session (.arrival incoming :: later) =
        Session.run session (.arrival other :: later)) ∧
    (∀ call : RemoteCall, call.method = "Lark.SendMessage" ∨ call.method = "Lark.SendPost" →
      Lacks call.parameters → ∀ (client : Client) (turns : List Turn),
      Job.resultFrom client call.dispatch turns =
          some (.error (.invalidParameters call.parameters.written)) ∧
        Job.sendingsFrom client call.dispatch turns = []) ∧
    ∀ (body : List UInt8) (call : RemoteCall), LeavesOut body →
      RemoteCall.record.decoder.decode body = .ok call →
      call.method = "Lark.SendMessage" ∨ call.method = "Lark.SendPost" →
      ∀ (client : Client) (turns : List Turn),
      Job.resultFrom client call.dispatch turns = some (.error (.invalidParameters "null")) ∧
        Job.sendingsFrom client call.dispatch turns = [] := by
  have hrefuses {call : RemoteCall}
      (hmethod : call.method = "Lark.SendMessage" ∨ call.method = "Lark.SendPost")
      (hlacks : Lacks call.parameters) (client : Client) (turns : List Turn) :
      Job.resultFrom client call.dispatch turns =
          some (.error (.invalidParameters call.parameters.written)) ∧
        Job.sendingsFrom client call.dispatch turns = [] := by
    rw [RemoteCall.dispatch_of_refused (RemoteCall.refused_of_lacks hmethod hlacks)]
    exact ⟨Job.resultFrom_done client _ turns, Job.sendingsFrom_done client _ turns⟩
  refine ⟨?_, ?_, fun call hmethod hlacks => hrefuses hmethod hlacks, ?_⟩
  · intro method id first further client turns listed single alone
    have hsingle : listed.dispatch = single.dispatch :=
      RemoteCall.dispatch_eq_of_isFirst rfl (.listed first further) (.listed first [])
    refine ⟨by rw [hsingle]; exact ⟨rfl, rfl⟩, ?_⟩
    rintro ⟨members, hmembers⟩
    have hbare : IsFirst first first := by
      rw [hmembers]
      exact .alone members
    have halone : listed.dispatch = alone.dispatch :=
      RemoteCall.dispatch_eq_of_isFirst rfl (.listed first further) hbare
    rw [halone]
    exact ⟨rfl, rfl⟩
  · intro session incoming other later method parameters others id first hmethod hpath hmethod'
      hpath' hcall hcall' hfirst hothers
    apply Session.run_arrival_eq
    rw [handle_remoteCall _ hmethod hpath, handle_remoteCall _ hmethod' hpath',
      answerRemoteCall_eq_of_isFirst hcall hcall' hfirst hothers]
  · intro body call hleaves hcall hmethod
    have hnull := RemoteCall.parameters_of_leavesOut hleaves hcall
    have hlacks : Lacks call.parameters := by
      rw [hnull]
      exact .null
    have hrefused := hrefuses hmethod hlacks
    rw [hnull] at hrefused
    exact hrefused

/-- A call with two parameters that do not count. -/
def listedRequest : Incoming :=
  ⟨"POST", "/jsonrpc/", Text.encodeUtf8
    ("\x7b\"method\":\"Lark.SendMessage\"," ++
      "\"params\":[\x7b\"chat_id\":\"oc_1\",\"content\":\"done\"\x7d,7,null],\"id\":1\x7d")⟩

/-- The same call with the first parameter alone. -/
def aloneRequest : Incoming :=
  ⟨"POST", "/jsonrpc/?from=ci", Text.encodeUtf8
    ("\x7b\"id\":1,\"params\":\x7b\"content\":\"done\",\"chat_id\":\"oc_1\"\x7d," ++
      "\"method\":\"Lark.SendMessage\"\x7d")⟩

/-- The two calls come to the same, and a method alone is refused in the form of an array as well
as with a number for its parameters. -/
theorem first_parameter_decides_for_three :
    Session.run readySession [.arrival listedRequest, .delivery 0 nestedDelivery] =
        Session.run readySession [.arrival aloneRequest, .delivery 0 nestedDelivery] ∧
      (∃ call, RemoteCall.record.decoder.decode (Value.array [.text "Lark.SendPost"]).bytes =
          .ok call ∧
        Job.resultFrom readySession.client call.dispatch [] =
          some (.error (.invalidParameters "null"))) ∧
      Job.sendingsFrom readySession.client
        (RemoteCall.dispatch ⟨"Lark.SendMessage", .number (.integer 7), .null⟩) [] = [] := by
  obtain ⟨-, hsame, hlacking, hleaving⟩ := first_parameter_decides
  refine ⟨?_, ?_, (hlacking _ (.inl rfl) (.number _) readySession.client []).2⟩
  · have hlisted : (RemoteCall.record.decoder.decode listedRequest.body).toOption.map id =
        some ⟨"Lark.SendMessage", .array [(TextParameters.json ⟨"oc_1", "done"⟩).sorted,
          .number (.integer 7), .null], .number (.integer 1)⟩ := by
      decide +kernel
    have halone : (RemoteCall.record.decoder.decode aloneRequest.body).toOption.map id =
        some ⟨"Lark.SendMessage", (TextParameters.json ⟨"oc_1", "done"⟩).sorted,
          .number (.integer 1)⟩ := by
      decide +kernel
    obtain ⟨_, hcall, rfl⟩ := Platform.exists_of_toOption_map hlisted
    obtain ⟨_, hcall', rfl⟩ := Platform.exists_of_toOption_map halone
    exact hsame readySession listedRequest aloneRequest _ _ _ _ _ _ rfl (by decide +kernel) rfl
      (by decide +kernel) hcall hcall' (.listed _ _) (.alone _)
  · have hview : (RemoteCall.record.decoder.decode
        (Value.array [.text "Lark.SendPost"]).bytes).toOption.map id =
          some ⟨"Lark.SendPost", .null, .null⟩ := by
      decide +kernel
    obtain ⟨call, hcall, hmade⟩ := Platform.exists_of_toOption_map hview
    have hmethod : call.method = "Lark.SendPost" := congrArg RemoteCall.method hmade
    have harray := Value.isArray_bytes (List.forall_mem_singleton.mpr
      (Value.IsWritable.text 0 "Lark.SendPost").isValue)
    exact ⟨call, hcall, (hleaving _ call (.array harray (Json.padded_self _)) hcall (.inr hmethod)
      readySession.client []).1⟩

end ChatSteward.Server
