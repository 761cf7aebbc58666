import ChatSteward.Proofs.Event.Envelopes
import ChatSteward.Proofs.Server.RemoteCalls

/-!
# Where requests go

Every request to the server gets one kind of response, which the path and the method decide. The
body matters for events alone, and there it is acknowledged whatever it is, except for an envelope
that holds a challenge: this is returned, character by character. Only an event with a text message
makes the server send anything, apart from the remote calls.

## Main definitions

* `Challenges` — the bodies with a challenge
* `Acknowledges` — the responses to events
* `challengeValue`, `missingValue` — what the bodies of responses tell
* `Incoming.IsServed` — the requests to which there is something

## Main results

* `challenges_written` — every challenge can be sent
* `handleEvent_of_challenges`, `handleEvent_of_not_challenges` — events are acknowledged, and
  challenges returned
* `tells_challenge`, `tells_missing` — what the responses tell
* `request_routed` — the response to every request, and which of them lead to nothing else
-/

namespace ChatSteward.Server

open Event (Envelope Message)
open Json (Decoder Value)
open Platform (Consultation Settings)

/-- Whether a body is an envelope that verifies the address of the server with a challenge. -/
def Challenges (body : List UInt8) (challenge : String) : Prop :=
  ∃ envelope, Envelope.ofBody body = .ok envelope ∧ envelope.kindName = "url_verification" ∧
    envelope.challenge = challenge

/-- What the body of the response to a challenge tells. -/
def challengeValue (challenge : String) : Value := .object [("challenge", .text challenge)]

/-- What the body of the response tells if there is nothing at a path. -/
def missingValue (path : String) : Value :=
  .object
    [("error", .object [("code", .text "not_found"), ("message", .text ("Not found: " ++ path))])]

/-- Whether there is something at the path of a request for its method. -/
def Incoming.IsServed (incoming : Incoming) : Prop :=
  incoming.path = "/204/" ∨
    incoming.method = "POST" ∧ (incoming.path = "/events/" ∨ incoming.path = "/jsonrpc/")

/-- Whether a response is the one to an event with some body: the challenge is returned if the body
holds one, and else there is nothing to say. -/
structure Acknowledges (body : List UInt8) (response : Response) : Prop where
  challenge : ∀ challenge, Challenges body challenge ↔
    response.status.code = 200 ∧ response.Tells (challengeValue challenge)
  nothing : (∀ challenge, ¬ Challenges body challenge) →
    response.status.code = 204 ∧ response.body = ""

/-! ## What bodies hold -/

theorem Challenges.unique {body : List UInt8} {challenge other : String}
    (hchallenges : Challenges body challenge) (hother : Challenges body other) :
    challenge = other := by
  obtain ⟨envelope, hbody, -, rfl⟩ := hchallenges
  obtain ⟨envelope', hbody', -, rfl⟩ := hother
  rw [Except.ok.inj (hbody.symm.trans hbody')]

/-- The envelope of a challenge can be written whatever characters the challenge has. -/
theorem challenges_written {envelope : Envelope} (hkind : envelope.kindName = "url_verification") :
    Challenges (Text.encodeUtf8 envelope.json.written) envelope.challenge :=
  ⟨envelope, envelope.ofBody_written, hkind, rfl⟩

/-! ## What responses tell -/

/-- A body tells one value. -/
theorem Response.Tells.eq {response : Response} {value other : Value}
    (htells : response.Tells value) (hother : response.Tells other) : value = other :=
  Except.ok.inj (htells.2.symm.trans hother.2)

/-- A challenge is returned as it is, whatever characters it has. -/
theorem tells_challenge (challenge : String) (status : Http.Status) :
    (Response.ofJson status (.object [("challenge", .text challenge)])).Tells
      (challengeValue challenge) :=
  Response.tells_ofJson (.object (List.forall_mem_singleton.mpr (.text _ challenge))) status

theorem challengeValue_injective : Function.Injective challengeValue := by
  intro challenge other hsame
  simpa [challengeValue] using hsame

theorem acknowledges_challenge {body : List UInt8} {challenge : String}
    (hchallenge : Challenges body challenge) :
    Acknowledges body (.ofJson .ok (.object [("challenge", .text challenge)])) where
  challenge other := by
    have htells := tells_challenge challenge .ok
    constructor
    · intro hother
      rw [← hchallenge.unique hother]
      exact ⟨rfl, htells⟩
    · rintro ⟨-, hother⟩
      -- what is told determines the challenge
      rwa [← challengeValue_injective (htells.eq hother)]
  nothing hnone := absurd hchallenge (hnone challenge)

theorem acknowledges_noContent {body : List UInt8}
    (hnone : ∀ challenge, ¬ Challenges body challenge) : Acknowledges body .noContent where
  challenge challenge := by
    refine iff_of_false (hnone challenge) fun hresponse => ?_
    have hcode : (204 : Nat) = 200 := hresponse.1
    omega
  nothing _ := ⟨rfl, rfl⟩

theorem tells_missing (path : String) :
    (Response.ofFault (.notFound path)).Tells (missingValue path) := by
  have hwritable : (Fault.notFound path).body.IsWritable Decoder.greatestDepth := by
    refine .object (List.forall_mem_singleton.mpr (.object (List.forall_mem_cons.mpr ?_)))
    exact ⟨.text _ "not_found", List.forall_mem_singleton.mpr (.text _ ("Not found: " ++ path))⟩
  have hrising : Dictionary.Rising
      [("code", Value.text "not_found"), ("message", .text ("Not found: " ++ path))] :=
    List.pairwise_pair.mpr (by decide : "code" < "message")
  have hsorted : (Fault.notFound path).body.sorted = missingValue path := by
    have hinner := congrArg Value.object (Dictionary.ofPairs_of_rising hrising)
    exact congrArg (fun error => Value.object [("error", error)]) hinner
  rw [← hsorted]
  exact Response.tells_ofJson hwritable .notFound

/-! ## How requests are handled -/

section

variable (settings : Settings)

/-- A challenge is returned at once. -/
theorem handleEvent_of_challenges {body : List UInt8} {challenge : String}
    (hchallenges : Challenges body challenge) :
    handleEvent settings body =
      .respond (.ofJson .ok (.object [("challenge", .text challenge)])) := by
  obtain ⟨envelope, hbody, hkind, rfl⟩ := hchallenges
  have hverification : envelope.kind = .verification := if_pos hkind
  simp only [handleEvent, hbody, hverification]

/-- Everything else is acknowledged, be it an event or not. -/
theorem handleEvent_of_not_challenges {body : List UInt8}
    (hnone : ∀ challenge, ¬ Challenges body challenge) :
    ∃ work, handleEvent settings body = .atOnce .noContent work := by
  rw [handleEvent]
  split
  case h_1 => exact ⟨_, rfl⟩
  case h_2 envelope hbody =>
    split
    case h_1 hkind =>
      -- only the name of this kind leads to it
      have hname : envelope.kindName = "url_verification" := by
        by_contra hother
        rw [Envelope.kind, if_neg hother] at hkind
        split at hkind
        · cases hkind
        · cases hkind
      exact absurd ⟨envelope, hbody, hname, rfl⟩ (hnone envelope.challenge)
    case h_2 =>
      split
      · exact ⟨_, rfl⟩
      · exact ⟨_, rfl⟩
    case h_3 => exact ⟨_, rfl⟩

variable {incoming : Incoming}

theorem handle_event (hmethod : incoming.method = "POST") (hpath : incoming.path = "/events/") :
    handle settings incoming = handleEvent settings incoming.body := by
  have hsign : incoming.path ≠ "/204/" := by
    rw [hpath]
    decide
  rw [handle, if_neg hsign, if_neg (not_not_intro hmethod), if_pos hpath]

theorem handle_unserved (hserved : ¬ incoming.IsServed) :
    handle settings incoming = handleUnknown incoming := by
  obtain ⟨hsign, hother⟩ := not_or.mp hserved
  rw [handle, if_neg hsign]
  by_cases hmethod : incoming.method = "POST"
  · obtain ⟨hevents, hremote⟩ := not_or.mp fun hpath => hother ⟨hmethod, hpath⟩
    rw [if_neg (not_not_intro hmethod), if_neg hevents, if_neg hremote]
  · rw [if_pos hmethod]

end

/-! ## Runs -/

section

variable {session : Session} {incoming : Incoming} (later : List Occurrence)

/-- The sign of life answers every method. -/
theorem responsesAt_sign (hpath : incoming.path = "/204/") :
    Session.responsesAt session.jobs.length
        (Session.run session (.arrival incoming :: later)).1 = [.noContent] ∧
      Session.requestsAt session.jobs.length
        (Session.run session (.arrival incoming :: later)).1 = [] := by
  have hhandle : handle session.client.settings incoming = .respond .noContent := if_pos hpath
  exact ⟨Session.responsesAt_atOnce hhandle later, Session.requestsAt_respond hhandle later⟩

/-- Only an event with a text message leads to requests. -/
theorem brings_of_requestsAt (hpath : incoming.path ≠ "/jsonrpc/")
    (hsent : Session.requestsAt session.jobs.length
      (Session.run session (.arrival incoming :: later)).1 ≠ []) :
    ∃ message, incoming.Brings message := by
  rcases handle_cases session.client.settings incoming with
    hbrings | ⟨hremote, -⟩ | ⟨response, hhandle⟩
  · exact hbrings
  · exact absurd hremote hpath
  · exact absurd (Session.requestsAt_respond hhandle later) hsent

/-- An event gets one response at once. -/
theorem responsesAt_event (hmethod : incoming.method = "POST")
    (hpath : incoming.path = "/events/") :
    ∃ response, Session.responsesAt session.jobs.length
        (Session.run session (.arrival incoming :: later)).1 = [response] ∧
      Acknowledges incoming.body response := by
  have hhandle := handle_event session.client.settings hmethod hpath
  -- the response comes at once in both cases, so the work after it makes no difference
  by_cases hchallenges : ∃ challenge, Challenges incoming.body challenge
  · obtain ⟨challenge, hchallenge⟩ := hchallenges
    rw [handleEvent_of_challenges _ hchallenge] at hhandle
    exact ⟨_, Session.responsesAt_atOnce hhandle later, acknowledges_challenge hchallenge⟩
  · have hnone := not_exists.mp hchallenges
    obtain ⟨work, hwork⟩ := handleEvent_of_not_challenges session.client.settings hnone
    rw [hwork] at hhandle
    exact ⟨_, Session.responsesAt_atOnce hhandle later, acknowledges_noContent hnone⟩

/-- What is not served gets the response that there is nothing, and leads to nothing. -/
theorem responsesAt_unserved (hserved : ¬ incoming.IsServed) :
    ∃ response, Session.responsesAt session.jobs.length
        (Session.run session (.arrival incoming :: later)).1 = [response] ∧
      Session.requestsAt session.jobs.length
        (Session.run session (.arrival incoming :: later)).1 = [] ∧
      response.status.code = 404 ∧
      if incoming.method = "HEAD" then response.body = ""
      else response.Tells (missingValue incoming.path) := by
  have hhandle := handle_unserved session.client.settings hserved
  refine ⟨_, Session.responsesAt_atOnce hhandle later,
    Session.requestsAt_respond hhandle later, ?_⟩
  split
  · exact ⟨rfl, rfl⟩
  · exact ⟨rfl, tells_missing incoming.path⟩

/-- A remote call gets one response at most, and none before there is something to tell. -/
theorem responsesAt_remoteCall (hmethod : incoming.method = "POST")
    (hpath : incoming.path = "/jsonrpc/") :
    (Session.responsesAt session.jobs.length
        (Session.run session (.arrival incoming :: later)).1 = [] ∧
      Session.requestsAt session.jobs.length
        (Session.run session (.arrival incoming :: later)).1 ≠ [] ∧
      session.turnsAt session.jobs.length (.arrival incoming :: later) = []) ∨
    ∃ response, Session.responsesAt session.jobs.length
        (Session.run session (.arrival incoming :: later)).1 = [response] ∧
      (response.status.code = 200 ∨ response.status.code = 400) := by
  let turns := session.turnsAt session.jobs.length (.arrival incoming :: later)
  rw [Session.responsesAt_later (handle_remoteCall _ hmethod hpath)]
  cases hdecode : RemoteCall.record.decoder.decode incoming.body with
  | error fault =>
    rw [(answerRemoteCall_undecodable session.client turns hdecode).2]
    exact .inr ⟨_, rfl, .inr rfl⟩
  | ok call =>
    rcases answers_of_decode hdecode session.client turns with
      ⟨hnone, hturns, operation, request, hleads, hrequest⟩ | ⟨response, _, hsome, hanswers⟩
    · refine .inl ⟨by rw [hnone, Option.toList_none], ?_, hturns⟩
      rw [requestsAt_leadsTo hmethod hpath hdecode later hleads, hrequest]
      exact List.cons_ne_nil _ _
    · exact .inr ⟨response, by rw [hsome, Option.toList_some], .inl hanswers.status⟩

end

/-- Any request that arrives while others are under way, and whatever the platform does. The sign of
life answers to every method. An event is answered at once: with its challenge exactly if it holds
one, as it may whatever characters the challenge has, and else with nothing. Only an event with a
text message leads to requests. A remote call is answered once, as soon as the platform has answered
if something was sent. For everything else there is nothing, and nothing is sent. -/
theorem request_routed (session : Session) (incoming : Incoming) (later : List Occurrence) :
    let effects := (Session.run session (.arrival incoming :: later)).1
    let responses := Session.responsesAt session.jobs.length effects
    let sent := Session.requestsAt session.jobs.length effects
    (incoming.path = "/204/" →
      (∃ response, responses = [response] ∧ response.status.code = 204) ∧ sent = []) ∧
    (incoming.method = "POST" → incoming.path = "/events/" →
      (∃ response, responses = [response] ∧ Acknowledges incoming.body response ∧
        ∀ envelope : Envelope, envelope.kindName = "url_verification" →
          incoming.body = Text.encodeUtf8 envelope.json.written →
          response.Tells (challengeValue envelope.challenge)) ∧
      (sent ≠ [] → ∃ envelope message, Envelope.ofBody incoming.body = .ok envelope ∧
        envelope.kindName = "event_callback" ∧ envelope.event = some message ∧
        message.event = "message" ∧ message.kind = "text")) ∧
    (incoming.method = "POST" → incoming.path = "/jsonrpc/" →
      (responses = [] ∧ sent ≠ [] ∧
        session.turnsAt session.jobs.length (.arrival incoming :: later) = []) ∨
      ∃ response, responses = [response] ∧
        (response.status.code = 200 ∨ response.status.code = 400)) ∧
    (¬ incoming.IsServed →
      (∃ response, responses = [response] ∧ response.status.code = 404 ∧
        if incoming.method = "HEAD" then response.body = ""
        else response.Tells (missingValue incoming.path)) ∧ sent = []) := by
  intro effects responses sent
  refine ⟨?_, ?_, fun hmethod hpath => responsesAt_remoteCall later hmethod hpath, ?_⟩
  · intro hpath
    obtain ⟨hresponses, hsent⟩ := responsesAt_sign later hpath
    exact ⟨⟨_, hresponses, rfl⟩, hsent⟩
  · intro hmethod hpath
    constructor
    · obtain ⟨response, hresponses, hacknowledges⟩ := responsesAt_event later hmethod hpath
      refine ⟨response, hresponses, hacknowledges, fun envelope hkind hbody => ?_⟩
      have hchallenges := challenges_written hkind
      rw [← hbody] at hchallenges
      exact ((hacknowledges.challenge envelope.challenge).mp hchallenges).2
    · intro hsent
      have hremote : incoming.path ≠ "/jsonrpc/" := by
        rw [hpath]
        decide
      obtain ⟨message, -, -, envelope, hbrings⟩ := brings_of_requestsAt later hremote hsent
      exact ⟨envelope, message, hbrings⟩
  · intro hserved
    obtain ⟨response, hresponses, hsent, hresponse⟩ := responsesAt_unserved later hserved
    exact ⟨⟨response, hresponses, hresponse⟩, hsent⟩

/-- A challenge with a quote and a character that is not printed. -/
def challengeRequest : Incoming :=
  ⟨"POST", "/events/", Text.encodeUtf8
    ("[\"url_verification\",\"\\u0000\\\"\"]")⟩

/-- The challenge is returned, though the envelope is an array. -/
theorem request_routed_challenge :
    ∃ response, Session.responsesAt 0 (Session.run readySession [.arrival challengeRequest]).1 =
        [response] ∧
      response.status.code = 200 ∧ response.Tells (challengeValue "\u0000\"") := by
  have hpath : challengeRequest.path = "/events/" := by decide +kernel
  have hview : (Envelope.ofBody challengeRequest.body).toOption.map
      (fun envelope => (envelope.kindName, envelope.challenge)) =
        some ("url_verification", "\u0000\"") := by
    decide +kernel
  obtain ⟨envelope, hbody, hseen⟩ := Platform.exists_of_toOption_map hview
  obtain ⟨hkind, hchallenge⟩ := Prod.mk.inj hseen
  obtain ⟨-, hevents, -, -⟩ := request_routed readySession challengeRequest []
  obtain ⟨⟨response, hresponses, hacknowledges, -⟩, -⟩ := hevents rfl hpath
  exact ⟨response, hresponses,
    (hacknowledges.challenge "\u0000\"").mp ⟨envelope, hbody, hkind, hchallenge⟩⟩

end ChatSteward.Server
