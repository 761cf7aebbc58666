import ChatSteward.Proofs.Platform.Isolation
import ChatSteward.Proofs.Platform.Results
import ChatSteward.Proofs.Server.Replies

/-!
# Messages that are handled at the same time

Each text message is handled as it would be alone. However the requests for several messages, the
answers to them, and the refreshes of the token follow one another: with the same answers to its
own requests, the work on a message sends the same requests in the same order, its reply among
them, and shows them with whatever token is held. The reply goes to the chat of its own message
and says what its own command comes to.

## Main definitions

* `Session.sentAlone` — what is sent for a request that is served alone

## Main results

* `Session.sentAlone_eq` — what is sent for a request that is served alone
* `messages_handled_in_isolation` — whole runs of a board on which messages are handled
-/

namespace ChatSteward.Platform

/-- A client that can send messages holds a token that can be shown. -/
theorem Client.IsUsable.holdsToken {client : Client} (husable : client.IsUsable) :
    client.HoldsToken := by
  obtain ⟨token, -, htoken, htext, -⟩ := husable
  exact ⟨token, htoken, htext⟩

/-- As long as no token is refreshed, every turn of a job finds the client of the agenda. -/
theorem Agenda.turns_deliveries {R : Type} (agenda : Agenda R) (place : Nat)
    (deliveries : List Http.Delivery) :
    agenda.turns place (deliveries.map (.delivery place)) =
      Board.turnsOf agenda.client deliveries := by
  induction deliveries generalizing agenda with
  | nil => rfl
  | cons delivery rest ih =>
    have hclient : (agenda.step (.delivery place delivery)).2.client = agenda.client := by
      simp only [step, deliver]
      split <;> rfl
    rw [List.map_cons, turns, ih, hclient]
    simp only [turn?, if_pos, Option.toList_some]
    rfl

end ChatSteward.Platform

namespace ChatSteward.Server

open Event (Message)
open Platform (Board Client Job)

/-- What is sent for a request that is served alone with some deliveries, credentials aside. -/
def Session.sentAlone (client : Client) (incoming : Incoming) (deliveries : List Http.Delivery) :
    List Http.Request :=
  (requestsAt 0 (serve (.ofClient client) incoming deliveries).1).map Http.Request.bare

/-- What is sent for it is what the work on it sends, given the deliveries. -/
theorem Session.sentAlone_eq (client : Client) (incoming : Incoming)
    (deliveries : List Http.Delivery) :
    sentAlone client incoming deliveries =
      (Job.sendingsFrom client (workOf (handle client.settings incoming))
        (Board.turnsOf client deliveries)).map (·.request.bare) := by
  have harrival := requestsAt_arrival (.ofClient client) incoming (deliveries.map (.delivery 0))
  have hturns : turnsAt (.ofClient client) 0
      (.arrival incoming :: deliveries.map (.delivery 0)) = Board.turnsOf client deliveries := by
    rw [turnsAt, List.map_cons, List.map_map]
    exact Platform.Agenda.turns_deliveries _ 0 deliveries
  have hserve := congrArg (List.map Http.Request.bare) harrival
  rw [List.map_map] at hserve
  rw [← hturns]
  exact hserve

/-- Requests that arrive at any time, a text message among them, and the steps of the work on them
in any order, together with refreshes of the token. At every point of such a run, what has been
sent for the message is, credentials aside, what is sent if it is served alone under the same
settings, with any token and the same answers to its own requests; but for one request that may be
yet to be sent. Once the work on it has ended, the last of its requests is the reply to its chat,
with the text that its command comes to alone, and no other of them is a message. -/
theorem messages_handled_in_isolation {client : Client} {incomings : List Incoming}
    {moves : List (Board.Move (Option Response))}
    (hbegun : Board.begun moves =
      incomings.map fun incoming => Session.workOf (handle client.settings incoming))
    (hheld : (Board.ofClient client).HoldsThroughout moves)
    {place : Nat} {incoming : Incoming} {message : Message}
    (hincoming : incomings[place]? = some incoming) (hbrings : incoming.Brings message)
    {alone : Client} (halone : alone.HoldsToken) (hsettings : alone.settings = client.settings)
    {answers : List Http.Delivery}
    (hanswers : (Board.ofClient client).answers place moves = answers) :
    ∃ task, ((Board.ofClient client).run moves).2.tasks[place]? = some task ∧
      (Board.ofClient client).sentAt place moves <+: Session.sentAlone alone incoming answers ∧
      (task.isReady = false →
        (Board.ofClient client).sentAt place moves =
          Session.sentAlone alone incoming answers) ∧
      ∀ result, task = .finished result → alone.IsUsable →
        ∃ reply request,
          Job.resultFrom alone (Bot.respond client.settings message.author message.command)
            (Board.turnsOf alone answers) = some reply ∧
          alone.IsMessage message.replyChat reply request ∧
          (Board.ofClient client).sentAt place moves =
            (Job.sendingsFrom alone
              (Bot.respond client.settings message.author message.command)
              (Board.turnsOf alone answers)).map (·.request.bare) ++ [request.bare] ∧
          ∀ sending ∈ Job.sendingsFrom alone
              (Bot.respond client.settings message.author message.command)
              (Board.turnsOf alone answers),
            sending.path ≠ "/message/v4/send/" := by
  subst hanswers
  have hwork : (Board.begun moves)[place]? =
      some (Session.workOf (handle client.settings incoming)) := by
    rw [hbegun, List.getElem?_map, hincoming]
    rfl
  obtain ⟨task, htask, hsettled, hsent⟩ := Board.requestsAt_of_begun halone
    (Nat.zero_le place) hwork hsettings.symm hheld
  have halike : Session.sentAlone alone incoming ((Board.ofClient client).answers place moves) =
      (Board.ofClient client).sentAt place moves ++ task.owed alone := by
    rw [Session.sentAlone_eq, hsettings, hsent]
  have hnone (hidle : task.isReady = false) : task.owed alone = [] := by
    rw [Platform.Task.owed, hidle]
    rfl
  refine ⟨task, htask, ⟨_, halike.symm⟩, ?_, ?_⟩
  · intro hidle
    rw [halike, hnone hidle, List.append_nil]
  · rintro result rfl husable
    -- the job of the message has the result of the task, and so its command has come to an end
    have hends : Job.resultFrom alone (Session.workOf (handle client.settings incoming))
        (Board.turnsOf alone ((Board.ofClient client).answers place moves)) = some result := by
      rw [Job.resultFrom]
      cases hjob : (Job.start alone (Session.workOf (handle client.settings incoming))).afterTurns
          (Board.turnsOf alone ((Board.ofClient client).answers place moves)) with
      | finished last =>
        rw [hjob] at hsettled
        cases hsettled
        rfl
      | waiting =>
        rw [hjob] at hsettled
        cases hsettled
    rw [workOf_handle_of_brings hbrings] at hends
    obtain ⟨reply, hreply⟩ := Job.exists_resultFrom_of_bind hends
    obtain ⟨builder, hbuilder, request, hmessage, hall⟩ :=
      sendingsFrom_message hbrings
        (fun builder hmem => Board.eq_of_mem_turnsOf hmem ▸ husable) hreply
    obtain rfl := Board.eq_of_mem_turnsOf hbuilder
    refine ⟨reply, request, hreply, hmessage, ?_, ?_⟩
    · rw [hall, List.map_append, hnone rfl, List.append_nil] at hsent
      exact hsent.symm
    · intro sending hmem hpath
      have hasks := asks_respond client.settings message.author message.command
      exact Job.sendingsFrom_asks hasks builder _ sending hmem
        ((sendsMessage_iff_path _ _).mpr hpath)

/-! ## Two messages -/

/-- The message of another user in another chat, who wants to know their id. -/
def identityRequest : Incoming :=
  ⟨"POST", "/events/", Text.encodeUtf8
    ("\x7b\"type\":\"event_callback\",\"event\":\x7b\"type\":\"message\",\"msg_type\":\"text\"," ++
      "\"chat_id\":\"oc_2\",\"user_open_id\":\"ou_2\",\"text\":\"whoami()\"\x7d\x7d")⟩

/-- The listing is sent and fails while the other message is replied to and the token is
refreshed; then its own reply is sent, under the new token. -/
def interleavedMoves : List (Board.Move (Option Response)) :=
  [.beginTask (Session.workOf (handle readySession.client.settings listingRequest)),
   .beginTask (Session.workOf (handle readySession.client.settings identityRequest)),
   .send 0, .refresh, .send 1, .delivery 0 .dropped,
   .refreshDelivery (.answered
     ⟨.ok, [], Text.encodeUtf8 "\x7b\"tenant_access_token\":\"t-2\"\x7d", true⟩),
   .send 0, .delivery 1 .timedOut, .delivery 0 .timedOut]

/-- The listing fails, and its reply tells so, as it does alone: two requests each time. -/
theorem failed_listing_replied_in_isolation :
    ∃ listing request,
      readySession.client.IsMessage "oc_1"
        "Network error: error sending request for url (http://a/chat/v4/list?page_size=200)"
        request ∧
      (Board.ofClient readySession.client).sentAt 0 interleavedMoves = [listing, request.bare] ∧
      Session.sentAlone readySession.client listingRequest [.dropped, .timedOut] =
        [listing, request.bare] := by
  let client := readySession.client
  have husable : client.IsUsable := readySession_isUsable
  have hheld : (Board.ofClient client).HoldsThroughout interleavedMoves := by
    refine Board.holdsThroughout_of_grants husable.holdsToken ?_
    intro delivery hmem token expire hgranted
    simp only [interleavedMoves, List.mem_cons, reduceCtorEq, Board.Move.refreshDelivery.injEq,
      List.not_mem_nil, false_or, or_false] at hmem
    subst hmem
    -- there is only this answer to a refresh, and it names the token that it grants
    obtain ⟨body, text, ⟨response, hresponse, -, -, hbody⟩, hreply, -⟩ := hgranted
    cases hresponse
    rw [Text.decodeLossy_encodeUtf8] at hbody
    subst hbody
    have hnamed : (Client.TokenReply.record.decoder.decode
        (Text.encodeUtf8 "\x7b\"tenant_access_token\":\"t-2\"\x7d")).toOption.map
          (fun reply => reply.token) = some "t-2" := by
      decide +kernel
    rw [hreply] at hnamed
    obtain rfl := Option.some.inj hnamed
    decide +kernel
  have hanswers : (Board.ofClient client).answers 0 interleavedMoves = [.dropped, .timedOut] := by
    decide +kernel
  have hended : (((Board.ofClient client).run interleavedMoves).2.tasks[0]?.map fun
      | .finished _ => true
      | _ => false) = some true := by
    decide +kernel
  have hreply : Job.resultFrom client
      (Bot.respond client.settings listingMessage.author listingMessage.command)
      (Board.turnsOf client [.dropped, .timedOut]) =
        some
          "Network error: error sending request for url (http://a/chat/v4/list?page_size=200)" := by
    decide +kernel
  have hlength : (Job.sendingsFrom client
      (Bot.respond client.settings listingMessage.author listingMessage.command)
      (Board.turnsOf client [.dropped, .timedOut])).length = 1 := by
    decide +kernel
  have hbegun : Board.begun interleavedMoves = [listingRequest, identityRequest].map fun incoming =>
      Session.workOf (handle client.settings incoming) := rfl
  have hincoming : [listingRequest, identityRequest][0]? = some listingRequest := rfl
  obtain ⟨task, htask, -, halike, hends⟩ := messages_handled_in_isolation hbegun hheld hincoming
    listingRequest_brings husable.holdsToken rfl hanswers
  rw [htask] at hended
  cases task with
  | ready | waiting => cases hended
  | finished result =>
    obtain ⟨reply, request, hresult, hmessage, hsent, -⟩ := hends result rfl husable
    obtain rfl := Option.some.inj (hresult.symm.trans hreply)
    obtain ⟨listing, hlisting⟩ := List.length_eq_one_iff.mp hlength
    rw [hlisting] at hsent
    exact ⟨listing.request.bare, request, hmessage, hsent, (halike rfl).symm.trans hsent⟩

end ChatSteward.Server
