import ChatSteward.Proofs.Platform.Asked

/-!
# Consultations in turn

Of two consultations in turn, a job first works on the one and then, in the same turn in which it
would have had its result, starts the other. So it sends what the first sends alone, and then what
the second sends from the client of this turn on.

## Main definitions

* `Job.followedBy` — a job that goes on with a consultation once it has its result

## Main results

* `Job.start_bind`, `Job.resume_followedBy` — jobs of consultations in turn are jobs in turn
* `Job.sendingsFrom_bind` — what is sent for consultations in turn is sent in turn
* `Job.sendingsFrom_ask` — what is sent for one question alone
-/

namespace ChatSteward.Platform.Job

variable {First Result : Type}

/-- A job that goes on with a consultation once it has its result; `client` is the one that it
finds then. -/
def followedBy (client : Client) (next : First → Consultation Result) : Job First → Job Result
  | .finished result => start client (next result)
  | .waiting request operation listing rest =>
    .waiting request operation listing fun answer => (rest answer).bind next

/-- The job of consultations in turn is the job of the first, followed by the second. -/
theorem start_bind (client : Client) (first : Consultation First)
    (next : First → Consultation Result) :
    start client (first.bind next) = (start client first).followedBy client next := by
  induction first with
  | done result => rfl
  | ask operation rest ih =>
    rw [Dialogue.bind, start, start]
    cases operation.immediate? with
    | some outcome => exact ih (.ok outcome)
    | none =>
      cases client.request operation .start with
      | error failure => exact ih (.error failure)
      | ok request => rfl

/-- While a job waits, it is resumed alike whatever follows it. -/
theorem resume_followedBy (former client : Client) (delivery : Http.Delivery)
    (request : Http.Request) (operation : Operation) (listing : Listing)
    (rest : Answer operation → Consultation First) (next : First → Consultation Result) :
    ((waiting request operation listing rest).followedBy former next).resume client delivery =
      (resume client delivery (waiting request operation listing rest)).followedBy client next := by
  simp only [followedBy, resume]
  -- the answer fails, ends the operation, or asks for another page
  split
  · exact start_bind client _ next
  · exact start_bind client _ next
  case h_3 listing' _ =>
    cases client.request operation listing' with
    | error failure => exact start_bind client _ next
    | ok request' => rfl

/-- What a job has under way, and what it sends in some turns. -/
def sent (job : Job Result) (turns : List Turn) : List Sending :=
  job.sending?.toList ++ job.sendings turns

theorem sent_cons (job : Job Result) (turn : Turn) (turns : List Turn) :
    job.sent (turn :: turns) =
      job.sending?.toList ++ (job.resume turn.client turn.delivery).sent turns := rfl

/-- A job that comes to its result sends what it sends alone, and then what the consultation sends
that follows. -/
theorem sent_followedBy {job : Job First} {turns : List Turn} {result : First}
    (hends : (job.afterTurns turns).result? = some result) (client : Client)
    (next : First → Consultation Result) :
    ∃ builder rest, builder ∈ client :: turns.map (·.client) ∧
      (∃ used, turns = used ++ rest) ∧
      (job.followedBy client next).sent turns =
        job.sent turns ++ sendingsFrom builder (next result) rest := by
  -- induction on the turns: a job that has its result is followed from there on
  induction turns generalizing job client with
  | nil =>
    cases job with
    | finished result' =>
      obtain rfl := Option.some.inj hends
      exact ⟨client, [], List.mem_cons_self, ⟨[], rfl⟩, rfl⟩
    | waiting => cases hends
  | cons turn turns ih =>
    cases job with
    | finished result' =>
      rw [afterTurns_finished] at hends
      obtain rfl := Option.some.inj hends
      refine ⟨client, turn :: turns, List.mem_cons_self, ⟨[], rfl⟩, ?_⟩
      rw [sent, sent, sending?, sendings_finished]
      rfl
    | waiting request operation listing rest =>
      obtain ⟨builder, later, hbuilder, ⟨used, hused⟩, hsent⟩ := ih hends turn.client
      refine ⟨builder, later, List.mem_cons_of_mem _ hbuilder, ⟨turn :: used, ?_⟩, ?_⟩
      · rw [hused]
        rfl
      · rw [sent_cons, sent_cons, resume_followedBy, hsent, List.append_assoc]
        rfl

/-- What is sent for consultations in turn is sent in turn. -/
theorem sendingsFrom_bind {client : Client} {first : Consultation First} {turns : List Turn}
    {result : First} (hends : ((start client first).afterTurns turns).result? = some result)
    (next : First → Consultation Result) :
    ∃ builder rest, builder ∈ client :: turns.map (·.client) ∧
      (∃ used, turns = used ++ rest) ∧
      sendingsFrom client (first.bind next) turns =
        sendingsFrom client first turns ++ sendingsFrom builder (next result) rest := by
  have hstart : sendingsFrom client (first.bind next) turns =
      ((start client first).followedBy client next).sent turns := by
    rw [sendingsFrom, start_bind]
    rfl
  rw [hstart]
  exact sent_followedBy hends client next

/-- One question alone, if it is no listing of chats, is one request, whatever comes of it. -/
theorem sendingsFrom_ask {client : Client} {operation : Operation} {request : Http.Request}
    (htalks : operation.immediate? = none) (hlist : operation ≠ .listChats)
    (hrequest : client.request operation .start = .ok request) (result : Result)
    (turns : List Turn) :
    sendingsFrom client (.ask operation fun _ => .done result) turns =
      [⟨operation, .start, request⟩] := by
  have hstart : start client (.ask operation fun _ => .done result) =
      .waiting request operation .start fun _ => .done result := by
    simp only [start, htalks, hrequest]
  rw [sendingsFrom, hstart]
  cases turns with
  | nil => rfl
  | cons turn turns =>
    rcases resume_waiting turn.client turn.delivery request operation .start
        (fun _ => .done result) with ⟨answer, hresume⟩ | ⟨_, _, heq, -, -⟩
    · rw [sendings, hresume, start, sendings_finished]
      rfl
    · exact absurd heq hlist

end ChatSteward.Platform.Job
