import ChatSteward.Proofs.Platform.Asked
import ChatSteward.Proofs.Platform.Content

/-!
# Success

An operation succeeds only if the platform says so: its request is sent under a token, an answer
comes that accepts it, and the body of the answer gives the operation what it looks for. The
listing of chats needs all of this for every page. Whatever else becomes of a request is a
failure; a status without success is one even if the body is an envelope without a rejection.

The converse holds too, so success is told exactly by what came back.

## Main definitions

* `Client.CanSend` — a request that can be sent
* `Operation.Succeeds` — the answers by which an operation comes to an outcome

## Main results

* `Job.afterTurns_ok_iff` — an operation that is under way
* `Job.resume_of_not_success` — statuses without success
* `Client.success_iff` — every operation and the refresh of the token
-/

namespace ChatSteward.Platform

open Dialogue (query)

/-! ## What it takes -/

/-- Whether the next request of an operation can be sent: a token is held, and the request can be
built with it. -/
def Client.CanSend (client : Client) (operation : Operation) (listing : Listing) : Prop :=
  ∃ token request, client.token = some token ∧
    client.build (some ("Bearer " ++ token)) (operation.call listing) = .ok request

/-- Whether an operation whose request is under way comes to an outcome by the next answers. -/
inductive Operation.Succeeds (operation : Operation) :
    Listing → List Turn → operation.Outcome → Prop where
  | last {listing : Listing} {turn : Turn} {turns : List Turn} {body : String}
      {content : operation.Content} {outcome : operation.Outcome}
      (haccepted : Accepted turn.delivery body) (hgives : operation.Gives body content)
      (hconclude : operation.conclude listing content = .finished outcome) :
      Succeeds operation listing (turn :: turns) outcome
  | page {listing next : Listing} {turn : Turn} {turns : List Turn} {body : String}
      {content : operation.Content} {outcome : operation.Outcome}
      (haccepted : Accepted turn.delivery body) (hgives : operation.Gives body content)
      (hconclude : operation.conclude listing content = .more next)
      (hsends : turn.client.CanSend operation next)
      (hrest : Succeeds operation next turns outcome) :
      Succeeds operation listing (turn :: turns) outcome

theorem Client.canSend_iff {client : Client} {operation : Operation} {listing : Listing} :
    client.CanSend operation listing ↔
      ∃ request, client.request operation listing = .ok request := by
  rw [CanSend, request]
  cases client.token with
  | none => simp
  | some token => simp

theorem exists_of_isOk {ε α : Type} {outcome : Except ε α} (hok : outcome.isOk = true) :
    ∃ value, outcome = .ok value := by
  cases outcome with
  | error => cases hok
  | ok value => exact ⟨value, rfl⟩

/-- What can be computed of an outcome shows that there is one. -/
theorem exists_of_toOption_map {ε α β : Type} {outcome : Except ε α} {view : α → β} {seen : β}
    (hview : outcome.toOption.map view = some seen) :
    ∃ value, outcome = .ok value ∧ view value = seen := by
  cases outcome with
  | error => cases hview
  | ok value => exact ⟨value, rfl, Option.some.inj hview⟩

/-- A body gives an operation what can be computed of it. -/
theorem Operation.gives_of_toOption {operation : Operation} {body : String}
    {content : operation.Content}
    (hview : ((Reply.record operation.data).decoder.decode (Text.encodeUtf8 body)).toOption.map
      (fun reply => (reply.code, operation.content? reply)) = some (0, some content)) :
    operation.Gives body content := by
  obtain ⟨reply, hdecode, hseen⟩ := exists_of_toOption_map hview
  exact ⟨reply, hdecode, (Prod.mk.inj hseen).1, (Prod.mk.inj hseen).2⟩

namespace Job

variable {R : Type}

/-! ## One turn -/

/-- What a job makes of an answer that gives the operation what it looks for. -/
theorem resume_of_gives {operation : Operation} {delivery : Http.Delivery} {body : String}
    {content : operation.Content} (haccepted : Accepted delivery body)
    (hgives : operation.Gives body content) (request : Http.Request) (listing : Listing) :
    (readBody request.url delivery).bind (operation.receive listing) =
      .ok (operation.conclude listing content) := by
  rw [readBody_eq_ok_iff.mpr haccepted]
  exact Operation.receive_eq_ok_iff.mpr ⟨content, hgives, rfl⟩

/-- What comes of an answer comes of what it gives. -/
theorem exists_gives {operation : Operation} {delivery : Http.Delivery} {url : Http.Url}
    {listing : Listing} {progress : Progress operation}
    (hreceive : (readBody url delivery).bind (operation.receive listing) = .ok progress) :
    ∃ body content, Accepted delivery body ∧ operation.Gives body content ∧
      operation.conclude listing content = progress := by
  cases hbody : readBody url delivery with
  | error failure =>
    rw [hbody] at hreceive
    cases hreceive
  | ok body =>
    rw [hbody] at hreceive
    obtain ⟨content, hgives, hconclude⟩ := Operation.receive_eq_ok_iff.mp hreceive
    exact ⟨body, content, readBody_eq_ok_iff.mp hbody, hgives, hconclude⟩

/-- A status without success answers the question with a failure. -/
theorem resume_of_not_success {response : Http.Response}
    (hstatus : response.status.isSuccess = false) (client : Client) (request : Http.Request)
    (operation : Operation) (listing : Listing) (next : Answer operation → Consultation R) :
    ∃ failure,
      resume client (.answered response) (.waiting request operation listing next) =
        start client (next (.error failure)) ∧
      (response.status = .tooManyRequests → failure = .rateLimited (retryAfter response)) := by
  cases hread : readResponse request.url response with
  | ok text => exact absurd hread (readResponse_ne_ok_of_not_success hstatus text)
  | error failure =>
    refine ⟨failure, ?_, ?_⟩
    · simp only [resume, readBody, hread]
      rfl
    · intro hrate
      rw [readResponse, if_pos hrate] at hread
      exact (Except.error.inj hread).symm

/-! ## All turns -/

theorem afterTurns_ne_ok_of_error {operation : Operation} (failure : Failure) (turns : List Turn)
    (outcome : operation.Outcome) :
    (finished (.error failure) : Job (Answer operation)).afterTurns turns ≠
      .finished (.ok outcome) := by
  rw [afterTurns_finished]
  exact fun heq => nomatch heq

/-- The operation under way comes to its outcome by the answers that lead to it. -/
theorem afterTurns_ok_iff {operation : Operation} {request : Http.Request} {listing : Listing}
    {turns : List Turn} {outcome : operation.Outcome} :
    (waiting request operation listing .done).afterTurns turns = .finished (.ok outcome) ↔
      operation.Succeeds listing turns outcome := by
  constructor
  · -- induction on the turns: a page leads to a job that waits for the next one
    intro hafter
    induction turns generalizing request listing with
    | nil => cases hafter
    | cons turn turns ih =>
      change (resume turn.client turn.delivery
        (.waiting request operation listing .done)).afterTurns turns = _ at hafter
      rw [resume] at hafter
      split at hafter
      case h_1 failure _ => exact absurd hafter (afterTurns_ne_ok_of_error failure turns outcome)
      case h_2 outcome' hreceive =>
        obtain ⟨body, content, haccepted, hgives, hconclude⟩ := exists_gives hreceive
        rw [start, afterTurns_finished] at hafter
        cases hafter
        exact .last haccepted hgives hconclude
      case h_3 listing' hreceive =>
        obtain ⟨body, content, haccepted, hgives, hconclude⟩ := exists_gives hreceive
        cases hrequest : turn.client.request operation listing' with
        | error failure =>
          rw [hrequest] at hafter
          exact absurd hafter (afterTurns_ne_ok_of_error failure turns outcome)
        | ok request' =>
          rw [hrequest] at hafter
          exact .page haccepted hgives hconclude (Client.canSend_iff.mpr ⟨request', hrequest⟩)
            (ih hafter)
  · -- induction on the pages that lead to the outcome
    intro hsucceeds
    induction hsucceeds generalizing request with
    | @last listing turn turns body content outcome haccepted hgives hconclude =>
      change (resume turn.client turn.delivery _).afterTurns turns = _
      rw [resume, resume_of_gives haccepted hgives, hconclude]
      exact afterTurns_finished _ turns
    | @page listing next turn turns body content outcome haccepted hgives hconclude hsends _ ih =>
      obtain ⟨request', hrequest⟩ := Client.canSend_iff.mp hsends
      change (resume turn.client turn.delivery _).afterTurns turns = _
      rw [resume, resume_of_gives haccepted hgives, hconclude]
      simp only [hrequest]
      exact ih

/-- An operation that is under way stays so, or it is answered. -/
theorem afterTurns_cases (request : Http.Request) (operation : Operation) (listing : Listing)
    (turns : List Turn) :
    (∃ request' listing', (waiting request operation listing .done).afterTurns turns =
      .waiting request' operation listing' .done) ∨
      ∃ answer, (waiting request operation listing .done).afterTurns turns = .finished answer := by
  induction turns generalizing request listing with
  | nil => exact .inl ⟨request, listing, rfl⟩
  | cons turn turns ih =>
    change (∃ _ _, (resume turn.client turn.delivery _).afterTurns turns = _) ∨
      ∃ _, (resume turn.client turn.delivery _).afterTurns turns = _
    rcases resume_waiting turn.client turn.delivery request operation listing .done with
      ⟨answer, hresume⟩ | ⟨more, request', -, -, hresume⟩
    · rw [hresume]
      exact .inr ⟨answer, afterTurns_finished answer turns⟩
    · rw [hresume]
      exact ih request' more

/-- An operation comes to its outcome if its request is sent and the answers lead to it. -/
theorem query_ok_iff (client : Client) {operation : Operation}
    (htalks : operation.immediate? = none) (turns : List Turn) (outcome : operation.Outcome) :
    (start client (query operation)).afterTurns turns = .finished (.ok outcome) ↔
      client.CanSend operation .start ∧ operation.Succeeds .start turns outcome := by
  rw [Client.canSend_iff]
  simp only [query, start, htalks]
  cases client.request operation .start with
  | error failure =>
    -- without a request the question is answered at once, by the failure
    simp only [reduceCtorEq, exists_false, false_and, iff_false]
    exact afterTurns_ne_ok_of_error failure turns outcome
  | ok request => simpa using afterTurns_ok_iff

/-- A status without success ends an operation that is under way with a failure. -/
theorem query_of_not_success (client : Client) {operation : Operation}
    (htalks : operation.immediate? = none) {turns : List Turn} {turn : Turn}
    {response : Http.Response}
    (hwaits : ((start client (query operation)).afterTurns turns).result? = none)
    (hanswered : turn.delivery = .answered response)
    (hstatus : response.status.isSuccess = false) :
    ∃ failure,
      (start client (query operation)).afterTurns (turns ++ [turn]) =
        .finished (.error failure) ∧
      (response.status = .tooManyRequests → failure = .rateLimited (retryAfter response)) := by
  cases hrequest : client.request operation .start with
  | error failure =>
    simp only [query, start, htalks, hrequest, afterTurns_finished] at hwaits
    cases hwaits
  | ok request =>
    have hstart : start client (query operation) = .waiting request operation .start .done := by
      simp only [query, start, htalks, hrequest]
    rw [hstart] at hwaits ⊢
    rcases afterTurns_cases request operation .start turns with
      ⟨request', listing, hwaiting⟩ | ⟨answer, hfinished⟩
    · obtain ⟨failure, hresume, hrate⟩ :=
        resume_of_not_success hstatus turn.client request' operation listing .done
      refine ⟨failure, ?_, hrate⟩
      rw [afterTurns_append, hwaiting]
      rw [← hanswered] at hresume
      exact hresume
    · rw [hfinished] at hwaits
      cases hwaits

end Job

/-! ## Refreshes -/

namespace Agenda

variable {R : Type}

/-- What comes of a refresh and of the answer to it. -/
theorem refresh_effects (client : Client) (delivery : Http.Delivery) :
    ((ofClient client : Agenda R).run [.refresh, .refreshDelivery delivery]).1 =
      match client.tokenRequest with
      | .error failure => [.refreshed (.error failure)]
      | .ok request =>
        [.sendRefresh request, .refreshed (client.acceptToken request delivery).2] := by
  simp only [run, step, beginRefresh, ofClient]
  cases client.tokenRequest <;> rfl

/-- A refresh succeeds if its request is sent and the answer grants a token. -/
theorem refreshed_ok_iff (client : Client) (delivery : Http.Delivery) (expire : Nat) :
    .refreshed (.ok expire) ∈
        ((ofClient client : Agenda R).run [.refresh, .refreshDelivery delivery]).1 ↔
      (∃ request, client.tokenRequest = .ok request) ∧ ∃ token, Grants delivery token expire := by
  rw [refresh_effects]
  cases client.tokenRequest with
  | error failure => simp
  | ok request =>
    rcases client.acceptToken_cases request delivery with
      ⟨token, seconds, hgranted, haccept⟩ | ⟨hrefused, failure, haccept⟩
    · simp only [haccept, List.mem_cons, reduceCtorEq, Effect.refreshed.injEq, Except.ok.injEq,
        List.not_mem_nil, or_false, false_or, exists_eq', true_and]
      constructor
      · rintro rfl
        exact ⟨token, hgranted⟩
      · rintro ⟨token', hgranted'⟩
        have hagain := Client.acceptToken_of_grants hgranted' client request
        rw [haccept] at hagain
        exact (Except.ok.inj (Prod.mk.inj hagain).2).symm
    · simp [haccept, hrefused]

/-- A refresh that comes too fast is told when to come again. -/
theorem refreshed_of_tooManyRequests {client : Client} {request : Http.Request}
    {response : Http.Response} (hrequest : client.tokenRequest = .ok request)
    (hrate : response.status = .tooManyRequests) :
    .refreshed (.error (.rateLimited (retryAfter response))) ∈
      ((ofClient client : Agenda R).run [.refresh, .refreshDelivery (.answered response)]).1 := by
  have hread : readBody request.url (.answered response) =
      .error (.rateLimited (retryAfter response)) := by
    rw [readBody, readResponse, if_pos hrate]
  rw [refresh_effects, hrequest]
  simp [Client.acceptToken, hread, Except.bind]

end Agenda

/-! ## Success -/

/-- Success is told exactly by what came back. An operation succeeds if its request was sent under
a token and the answers lead to its outcome, and a status without success ends it with a failure
whatever the body. A refresh needs no token and succeeds if its answer grants one. -/
theorem Client.success_iff (client : Client) {operation : Operation}
    (htalks : operation.immediate? = none) :
    (∀ turns outcome,
      (Job.start client (query operation)).afterTurns turns = .finished (.ok outcome) ↔
        client.CanSend operation .start ∧ operation.Succeeds .start turns outcome) ∧
    (∀ turns turn response,
      ((Job.start client (query operation)).afterTurns turns).result? = none →
      turn.delivery = .answered response → response.status.isSuccess = false →
      ∃ failure,
        (Job.start client (query operation)).afterTurns (turns ++ [turn]) =
          .finished (.error failure) ∧
        (response.status = .tooManyRequests → failure = .rateLimited (retryAfter response))) ∧
    (∀ (R : Type) delivery expire,
      .refreshed (.ok expire) ∈
          ((Agenda.ofClient client : Agenda R).run [.refresh, .refreshDelivery delivery]).1 ↔
        (∃ request, client.tokenRequest = .ok request) ∧
          ∃ token, Grants delivery token expire) ∧
    (∀ (R : Type) request response, client.tokenRequest = .ok request →
      response.status = .tooManyRequests →
      .refreshed (.error (.rateLimited (retryAfter response))) ∈
        ((Agenda.ofClient client : Agenda R).run
          [.refresh, .refreshDelivery (.answered response)]).1) :=
  ⟨Job.query_ok_iff client htalks,
    fun _ _ _ => Job.query_of_not_success client htalks,
    fun _ => Agenda.refreshed_ok_iff client,
    fun _ _ _ => Agenda.refreshed_of_tooManyRequests⟩

/-- A page of chats that says that another one follows, and no code. -/
def firstPageText : String :=
  "\x7b\"data\":\x7b\"groups\":[\x7b\"chat_id\":\"a\"\x7d]," ++
    "\"has_more\":true,\"page_token\":\"p\"\x7d\x7d"

/-- The page that follows it. -/
def lastPageText : String :=
  "\x7b\"code\":0,\"data\":\x7b\"groups\":[\x7b\"chat_id\":\"b\"\x7d]\x7d\x7d"

/-- A listing of chats in two pages, the second of them asked for under a newer token. -/
theorem listing_of_two_pages :
    Operation.listChats.immediate? = none ∧
      (Job.start ⟨⟨"cli_1", "secret", "http://a", []⟩, some "t-1"⟩ (query .listChats)).afterTurns
        [⟨⟨⟨"cli_1", "secret", "http://a", []⟩, some "t-2"⟩,
            .answered ⟨.ok, [], Text.encodeUtf8 firstPageText, true⟩⟩,
          ⟨⟨⟨"cli_1", "secret", "http://a", []⟩, some "t-2"⟩,
            .answered ⟨.ok, [], Text.encodeUtf8 lastPageText, true⟩⟩] =
        .finished (.ok [⟨"a", "", "", ""⟩, ⟨"b", "", "", ""⟩]) := by
  have hsends (client : Client) (listing : Listing)
      (hbuilt : (client.request .listChats listing).isOk = true) :
      client.CanSend .listChats listing :=
    Client.canSend_iff.mpr (exists_of_isOk hbuilt)
  have hfirst : Operation.listChats.Gives firstPageText ⟨[⟨"a", "", "", ""⟩], true, "p"⟩ :=
    Operation.gives_of_toOption (by decide +kernel)
  have hlast : Operation.listChats.Gives lastPageText ⟨[⟨"b", "", "", ""⟩], false, ""⟩ :=
    Operation.gives_of_toOption (by decide +kernel)
  refine ⟨rfl, ((Client.success_iff _ rfl).1 _ _).mpr ⟨hsends _ _ (by decide +kernel), ?_⟩⟩
  exact .page (accepted_of_text rfl rfl rfl) hfirst rfl (hsends _ _ (by decide +kernel))
    (.last (accepted_of_text rfl rfl rfl) hlast rfl)

/-- A reply to the request of a token that tells of no rejection is not enough: the refresh fails
when no token is in it. -/
theorem refresh_fails_without_token :
    ¬ ((∃ expire, .refreshed (.ok expire) ∈
          ((Agenda.ofClient ⟨⟨"cli_1", "secret", "http://a", []⟩, none⟩ : Agenda Unit).run
            [.refresh, .refreshDelivery (.answered
              ⟨.ok, [], Text.encodeUtf8 "\x7b\"code\":0,\"expire\":7200\x7d", true⟩)]).1) ↔
        (∃ request,
          Client.tokenRequest ⟨⟨"cli_1", "secret", "http://a", []⟩, none⟩ = .ok request) ∧
        ∃ body reply,
          Accepted (.answered
            ⟨.ok, [], Text.encodeUtf8 "\x7b\"code\":0,\"expire\":7200\x7d", true⟩) body ∧
          Client.TokenReply.record.decoder.decode (Text.encodeUtf8 body) = .ok reply ∧
          reply.code = 0) := by
  have hreply : (Client.TokenReply.record.decoder.decode
      (Text.encodeUtf8 "\x7b\"code\":0,\"expire\":7200\x7d")).toOption.map
        (fun reply => (reply.code, reply.token)) = some (0, "") := by
    decide +kernel
  obtain ⟨reply, hdecode, hseen⟩ := exists_of_toOption_map hreply
  obtain ⟨hcode, htoken⟩ := Prod.mk.inj hseen
  intro hiff
  obtain ⟨expire, hmem⟩ := hiff.mpr
    ⟨exists_of_isOk (by decide +kernel), _, reply, accepted_of_text rfl rfl rfl, hdecode, hcode⟩
  obtain ⟨-, token, body, text, ⟨response, hresponse, -, -, hbody⟩, hgranted, hne⟩ :=
    (Agenda.refreshed_ok_iff _ _ expire).mp hmem
  -- there is only this body, and the token in it is empty
  cases hresponse
  rw [Text.decodeLossy_encodeUtf8] at hbody
  rw [← hbody, hdecode] at hgranted
  rw [Except.ok.inj hgranted] at htoken
  exact hne htoken

end ChatSteward.Platform
