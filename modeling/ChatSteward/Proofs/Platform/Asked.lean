import ChatSteward.Proofs.Platform.Sending
import ChatSteward.Proofs.Turns

/-!
# What is asked for and what is sent

A job sends requests for the operations that its consultation asks for, and builds each from the
operation and from a client with the settings of the agenda. Only the listing of chats sends more
than one request, so of everything else at most one is sent for each question.

## Main definitions

* `Job.Asks`, `Job.AsksOfKinds` — what a job has asked for and may still ask for
* `Job.IsBuilt` — what a job has under way is a request for its operation

## Main results

* `Job.start_ask`, `Job.resume_waiting` — what a job can do in one turn
* `Job.sendingsFrom_asks` — everything is sent for an operation that is asked for
* `Job.sendingsFrom_built` — everything is built from its operation
* `Job.sendingsFrom_ofKinds` — what is sent keeps to the kinds that are asked for
-/

namespace ChatSteward.Platform

open Dialogue (OfKinds)

theorem exists_of_map_eq_ok {ε α β : Type} {change : α → β} {outcome : Except ε α} {result : β}
    (hmap : outcome.map change = .ok result) : ∃ value, change value = result := by
  cases outcome with
  | error => cases hmap
  | ok value => exact ⟨value, Except.ok.inj hmap⟩

/-- Only the listing of chats goes on after an answer. -/
theorem Operation.eq_listChats_of_more {operation : Operation} {listing more : Listing}
    {body : String} (hmore : operation.receive listing body = .ok (.more more)) :
    operation = .listChats := by
  cases operation with
  | listChats => rfl
  | _ =>
    obtain ⟨_, hfinished⟩ := exists_of_map_eq_ok hmore
    cases hfinished

namespace Job

variable {R : Type}

/-! ## One turn -/

/-- A question is answered at once, or its request is sent. -/
theorem start_ask (client : Client) (operation : Operation)
    (next : Answer operation → Consultation R) :
    (∃ answer, start client (.ask operation next) = start client (next answer)) ∨
      ∃ request, client.request operation .start = .ok request ∧
        start client (.ask operation next) = .waiting request operation .start next := by
  rw [start]
  cases operation.immediate? with
  | some outcome => exact .inl ⟨.ok outcome, rfl⟩
  | none =>
    cases hrequest : client.request operation .start with
    | error failure => exact .inl ⟨.error failure, rfl⟩
    | ok request => exact .inr ⟨request, rfl, rfl⟩

/-- A delivery answers the question, or leads to another request of the listing of chats. -/
theorem resume_waiting (client : Client) (delivery : Http.Delivery) (request : Http.Request)
    (operation : Operation) (listing : Listing) (next : Answer operation → Consultation R) :
    (∃ answer, resume client delivery (.waiting request operation listing next) =
        start client (next answer)) ∨
      ∃ more request', operation = .listChats ∧ client.request operation more = .ok request' ∧
        resume client delivery (.waiting request operation listing next) =
          .waiting request' operation more next := by
  rw [resume]
  split
  case h_1 failure _ => exact .inl ⟨.error failure, rfl⟩
  case h_2 outcome _ => exact .inl ⟨.ok outcome, rfl⟩
  case h_3 more hmore =>
    cases hrequest : client.request operation more with
    | error failure => exact .inl ⟨.error failure, rfl⟩
    | ok request' =>
      refine .inr ⟨more, request', ?_, hrequest, rfl⟩
      cases hbody : readBody request.url delivery with
      | error failure =>
        rw [hbody] at hmore
        cases hmore
      | ok body =>
        rw [hbody] at hmore
        exact Operation.eq_listChats_of_more hmore

/-! ## Operations that are asked for -/

/-- Whether everything that a job has asked for and may still ask for satisfies a condition. -/
def Asks (admits : Operation → Prop) : Job R → Prop
  | .finished _ => True
  | .waiting _ operation _ next =>
    admits operation ∧ ∀ answer, Dialogue.Asks admits (next answer)

theorem asks_start {admits : Operation → Prop} {consultation : Consultation R}
    (hasks : Dialogue.Asks admits consultation) (client : Client) :
    Asks admits (start client consultation) := by
  induction hasks with
  | done result => trivial
  | @ask operation next hoperation hnext ih =>
    rcases start_ask client operation next with ⟨answer, hstart⟩ | ⟨request, -, hstart⟩
    · rw [hstart]
      exact ih answer
    · rw [hstart]
      exact ⟨hoperation, hnext⟩

theorem asks_resume {admits : Operation → Prop} {job : Job R} (hasks : job.Asks admits)
    (client : Client) (delivery : Http.Delivery) : (job.resume client delivery).Asks admits := by
  cases job with
  | finished => exact hasks
  | waiting request operation listing next =>
    rcases resume_waiting client delivery request operation listing next with
      ⟨answer, hresume⟩ | ⟨more, request', -, -, hresume⟩
    · rw [hresume]
      exact asks_start (hasks.2 answer) client
    · rw [hresume]
      exact hasks

/-- Everything is sent for an operation that is asked for. -/
theorem sendingsFrom_asks {admits : Operation → Prop} {consultation : Consultation R}
    (hasks : Dialogue.Asks admits consultation) (client : Client) (turns : List Turn) :
    ∀ sending ∈ sendingsFrom client consultation turns, admits sending.operation := by
  have hsends (job : Job R) (hjob : job.Asks admits) :
      ∀ sending ∈ job.sending?.toList, admits sending.operation := by
    cases job with
    | finished => simp [sending?]
    | waiting => simpa [sending?] using hjob.1
  have hstart := asks_start hasks client
  intro sending hmem
  rcases List.mem_append.mp hmem with hmem | hmem
  · exact hsends _ hstart sending hmem
  · exact forall_sendings (Asks admits) (fun sending => admits sending.operation)
      (fun _ turn _ hjob => asks_resume hjob turn.client turn.delivery) hsends hstart sending hmem

/-! ## Requests that are built -/

/-- Whether what a job has under way was built for its operation, by a client with some
settings. -/
def IsBuilt (settings : Settings) (job : Job R) : Prop :=
  ∀ sending ∈ job.sending?.toList, ∃ client : Client, client.settings = settings ∧
    client.request sending.operation sending.listing = .ok sending.request

theorem isBuilt_waiting {client : Client} {request : Http.Request} {operation : Operation}
    {listing : Listing} (hrequest : client.request operation listing = .ok request)
    (next : Answer operation → Consultation R) :
    (waiting request operation listing next).IsBuilt client.settings := by
  simpa [IsBuilt, sending?] using ⟨client, rfl, hrequest⟩

theorem isBuilt_start (client : Client) (consultation : Consultation R) :
    (start client consultation).IsBuilt client.settings := by
  induction consultation with
  | done result => simp [IsBuilt, start, sending?]
  | ask operation next ih =>
    rcases start_ask client operation next with ⟨answer, hstart⟩ | ⟨request, hrequest, hstart⟩
    · rw [hstart]
      exact ih answer
    · rw [hstart]
      exact isBuilt_waiting hrequest next

theorem isBuilt_resume {settings : Settings} {job : Job R} (hbuilt : job.IsBuilt settings)
    {client : Client} (hclient : client.settings = settings) (delivery : Http.Delivery) :
    (job.resume client delivery).IsBuilt settings := by
  subst hclient
  cases job with
  | finished => exact hbuilt
  | waiting request operation listing next =>
    rcases resume_waiting client delivery request operation listing next with
      ⟨answer, hresume⟩ | ⟨more, request', -, hrequest, hresume⟩
    · rw [hresume]
      exact isBuilt_start client (next answer)
    · rw [hresume]
      exact isBuilt_waiting hrequest next

/-- Everything is built from its operation, by clients with the same settings. -/
theorem sendingsFrom_built {client : Client} {turns : List Turn}
    (hturns : ∀ turn ∈ turns, turn.client.settings = client.settings)
    (consultation : Consultation R) :
    ∀ sending ∈ sendingsFrom client consultation turns,
      ∃ builder : Client, builder.settings = client.settings ∧
        builder.request sending.operation sending.listing = .ok sending.request := by
  have hstart := isBuilt_start client consultation
  intro sending hmem
  rcases List.mem_append.mp hmem with hmem | hmem
  · exact hstart sending hmem
  · exact forall_sendings (IsBuilt client.settings) _
      (fun _ turn hturn hjob => isBuilt_resume hjob (hturns turn hturn) turn.delivery)
      (fun _ hjob => hjob) hstart sending hmem

/-! ## Operations of some kinds -/

/-- Whether a job, after what it has under way, asks for operations of some kinds in their order,
at most one of each. -/
def AsksOfKinds (kinds : List (Operation → Prop)) : Job R → Prop
  | .finished _ => True
  | .waiting _ operation _ next =>
    operation ≠ .listChats ∧ ∀ answer, Dialogue.AsksOfKinds kinds (next answer)

/-- What a consultation sends keeps to its kinds if all its jobs keep to theirs: the kind of what
is under way has been passed already. -/
theorem ofKinds_of_start {turns : List Turn} {client : Client}
    (hjobs : ∀ {kinds : List (Operation → Prop)}, (∀ kind ∈ kinds, ¬ kind .listChats) →
      ∀ {job : Job R}, job.AsksOfKinds kinds →
        OfKinds kinds ((job.sendings turns).map (·.operation)))
    {kinds : List (Operation → Prop)} (hkinds : ∀ kind ∈ kinds, ¬ kind .listChats)
    {consultation : Consultation R} (hasks : Dialogue.AsksOfKinds kinds consultation) :
    OfKinds kinds ((sendingsFrom client consultation turns).map (·.operation)) := by
  induction hasks with
  | done kinds result =>
    rw [sendingsFrom, start, sendings_finished]
    exact .nil kinds
  | skip _ ih => exact .skip (ih fun kind hkind => hkinds kind (List.mem_cons_of_mem _ hkind))
  | @ask kind kinds operation next hoperation hnext ih =>
    have hrest : ∀ kind ∈ kinds, ¬ kind .listChats :=
      fun kind hkind => hkinds kind (List.mem_cons_of_mem _ hkind)
    rcases start_ask client operation next with ⟨answer, hstart⟩ | ⟨request, -, hstart⟩
    · -- a question that is answered at once sends nothing, so its kind is passed over
      rw [sendingsFrom, hstart]
      exact .skip (ih answer hrest)
    · rw [sendingsFrom, hstart]
      refine .cons hoperation (hjobs hrest ⟨?_, hnext⟩)
      rintro rfl
      exact hkinds kind List.mem_cons_self hoperation

theorem sendings_ofKinds {turns : List Turn} {kinds : List (Operation → Prop)}
    (hkinds : ∀ kind ∈ kinds, ¬ kind .listChats) {job : Job R} (hjob : job.AsksOfKinds kinds) :
    OfKinds kinds ((job.sendings turns).map (·.operation)) := by
  -- induction on the turns: a turn that answers starts what follows, which has fewer turns left
  induction turns generalizing kinds job with
  | nil => exact .nil kinds
  | cons turn turns ih =>
    cases job with
    | finished result =>
      rw [sendings_finished]
      exact .nil kinds
    | waiting request operation listing next =>
      rcases resume_waiting turn.client turn.delivery request operation listing next with
        ⟨answer, hresume⟩ | ⟨_, _, hlist, -, -⟩
      · rw [sendings, hresume]
        exact ofKinds_of_start ih hkinds (hjob.2 answer)
      · exact absurd hlist hjob.1

/-- What is sent keeps to the kinds that are asked for, if the listing of chats is of none. -/
theorem sendingsFrom_ofKinds {kinds : List (Operation → Prop)}
    (hkinds : ∀ kind ∈ kinds, ¬ kind .listChats) {consultation : Consultation R}
    (hasks : Dialogue.AsksOfKinds kinds consultation) (client : Client) (turns : List Turn) :
    OfKinds kinds ((sendingsFrom client consultation turns).map (·.operation)) :=
  ofKinds_of_start sendings_ofKinds hkinds hasks

end Job

end ChatSteward.Platform
