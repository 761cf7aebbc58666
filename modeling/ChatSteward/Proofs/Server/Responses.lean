import ChatSteward.Proofs.Json.Restoring
import ChatSteward.Proofs.Platform.Results
import ChatSteward.Proofs.Server.Replies
import Mathlib.Data.List.ReduceOption

/-!
# Responses

A request to the server gets its response when it arrives, or when the work on it is done. In the
first case this is the only response that it gets, and the work may still send something. In the
second it is the result of the work, if the work comes to one, and what is sent is sent before.

## Main definitions

* `Response.Tells` — what the body of a response is read as
* `Session.responsesAt` — the responses to the request at a place

## Main results

* `Session.responsesAt_atOnce` — requests that get their response when they arrive
* `Session.responsesAt_later`, `Session.requestsAt_later` — requests that get it later
* `Session.requestsAt_respond` — requests that lead to no work
-/

namespace ChatSteward.Server

open Json (Decoder Value)
open Platform (Agenda Consultation Job)

/-! ## Bodies -/

/-- Whether a response has a body of JSON text that is read as a value. -/
def Response.Tells (response : Response) (value : Value) : Prop :=
  response.contentType = some "application/json" ∧
    Decoder.value.decode (Text.encodeUtf8 response.body) = .ok value

theorem Response.tells_ofJson {value : Value} (hwritable : value.IsWritable Decoder.greatestDepth)
    (status : Http.Status) : (Response.ofJson status value).Tells value.sorted :=
  ⟨rfl, hwritable.decode⟩

/-! ## Places -/

/-- The response to the request that began a job, with the place of the job. -/
def Effect.responded? : Effect → Option (Nat × Response)
  | .respond place response => some (place, response)
  | _ => none

namespace Session

/-- The responses to the request at a place, in order. -/
def responsesAt (place : Nat) (effects : List Effect) : List Response :=
  ((effects.filterMap Effect.responded?).filter fun responded => responded.1 = place).map (·.2)

@[simp] theorem responsesAt_append (place : Nat) (first second : List Effect) :
    responsesAt place (first ++ second) = responsesAt place first ++ responsesAt place second := by
  rw [responsesAt, List.filterMap_append, List.filter_append, List.map_append]
  rfl

@[simp] theorem responsesAt_respond (place : Nat) (responses : List Response) :
    responsesAt place (responses.map (.respond place)) = responses := by
  have hresponded : (Effect.responded? ∘ Effect.respond place) =
      fun response => some (place, response) := rfl
  rw [responsesAt, List.filterMap_map, hresponded, List.filterMap_eq_map', List.filter_map]
  simp [Function.comp_def]

theorem responsesAt_respond_of_ne {place other : Nat} (hne : other ≠ place)
    (responses : List Response) : responsesAt place (responses.map (.respond other)) = [] := by
  have hresponded : (Effect.responded? ∘ Effect.respond other) =
      fun response => some (other, response) := rfl
  rw [responsesAt, List.filterMap_map, hresponded, List.filterMap_eq_map', List.filter_map]
  simp [Function.comp_def, hne]

/-- A job responds with its result if it has one to respond with. -/
theorem responsesAt_ofAgenda (place : Nat) (effects : List (Agenda.Effect (Option Response))) :
    responsesAt place (effects.filterMap Effect.ofAgenda?) =
      (Agenda.finishedAt place effects).reduceOption := by
  induction effects with
  | nil => rfl
  | cons effect effects ih =>
    rw [← List.singleton_append, List.filterMap_append, responsesAt_append,
      Agenda.finishedAt_append, List.reduceOption_append, ih]
    congr 1
    cases effect with
    | finish other result =>
      by_cases hplace : other = place
      · subst hplace
        cases result <;> simp [responsesAt, Agenda.finishedAt, Effect.ofAgenda?,
          Effect.responded?, Agenda.Effect.finished?, List.reduceOption]
      · cases result <;> simp [responsesAt, Agenda.finishedAt, Effect.ofAgenda?,
          Effect.responded?, Agenda.Effect.finished?, List.reduceOption, hplace]
    | send | sendRefresh | refreshed => rfl

/-- To a request that arrived before, a session responds as its agenda does. -/
theorem responsesAt_step {session : Session} {place : Nat} (hplace : place < session.jobs.length)
    (occurrence : Occurrence) :
    responsesAt place (step session occurrence).1 =
      (Agenda.finishedAt place
        (Agenda.step session (occurrence.inAgenda session.client.settings)).1).reduceOption := by
  cases occurrence with
  | arrival incoming =>
    -- a response at once goes to the request that arrives
    have hother := responsesAt_respond_of_ne (Nat.ne_of_gt hplace)
      (atOnce? (handle session.client.settings incoming)).toList
    simp only [step, arrive, follow, responsesAt_append, hother, List.nil_append]
    exact responsesAt_ofAgenda place _
  | delivery | refresh | refreshDelivery => exact responsesAt_ofAgenda place _

theorem responsesAt_run {session : Session} {place : Nat} {job : Job (Option Response)}
    (hjob : session.jobs[place]? = some job) (occurrences : List Occurrence) :
    responsesAt place (run session occurrences).1 =
      (Agenda.finishedAt place (Agenda.run session
        (occurrences.map (Occurrence.inAgenda session.client.settings))).1).reduceOption := by
  induction occurrences generalizing session job with
  | nil => rfl
  | cons occurrence rest ih =>
    obtain ⟨hlt, -⟩ := List.getElem?_eq_some_iff.mp hjob
    have hnext : (step session occurrence).2.jobs[place]? = some _ :=
      (congrArg (·.jobs[place]?) (step_agenda session occurrence).1).trans
        (Agenda.run_of_job hjob [occurrence.inAgenda session.client.settings])
    have hrest := ih hnext
    rw [step_settings, (step_agenda session occurrence).1] at hrest
    rw [run, responsesAt_append, responsesAt_step hlt, List.map_cons, Agenda.run,
      Agenda.finishedAt_append, List.reduceOption_append]
    simp only [(step_agenda session occurrence).1, hrest]

/-- A request gets the response that is there at once, and the one that its work ends with. -/
theorem responsesAt_arrival (session : Session) (incoming : Incoming) (later : List Occurrence) :
    responsesAt session.jobs.length (run session (.arrival incoming :: later)).1 =
      (atOnce? (handle session.client.settings incoming)).toList ++
        (Job.resultFrom session.client (workOf (handle session.client.settings incoming))
          (session.turnsAt session.jobs.length
            (.arrival incoming :: later))).toList.reduceOption := by
  let settings := session.client.settings
  let begins : Agenda.Occurrence (Option Response) := .beginJob (workOf (handle settings incoming))
  have hjob : (step session (.arrival incoming)).2.jobs[session.jobs.length]? =
      some (Job.start session.client (workOf (handle settings incoming))) :=
    List.getElem?_concat_length
  -- what its job ends with comes first of its own step and then of all others
  have hresult := congrArg List.reduceOption (Agenda.finishedAt_beginJob session
    (workOf (handle settings incoming)) (later.map (Occurrence.inAgenda settings)))
  rw [Agenda.run, Agenda.finishedAt_append, List.reduceOption_append] at hresult
  have hfirst : responsesAt session.jobs.length (step session (.arrival incoming)).1 =
      (atOnce? (handle settings incoming)).toList ++
        (Agenda.finishedAt session.jobs.length (Agenda.step session begins).1).reduceOption := by
    simp only [step, arrive, follow, responsesAt_append, responsesAt_respond]
    rw [responsesAt_ofAgenda]
  rw [run, responsesAt_append, hfirst, List.append_assoc]
  exact congrArg _ ((congrArg _ (responsesAt_run hjob later)).trans hresult)

/-- A request that gets its response when it arrives gets no other. -/
theorem responsesAt_atOnce {session : Session} {incoming : Incoming} {response : Response}
    {work : Consultation Unit}
    (hhandle : handle session.client.settings incoming = .atOnce response work)
    (later : List Occurrence) :
    responsesAt session.jobs.length (run session (.arrival incoming :: later)).1 =
      [response] := by
  rw [responsesAt_arrival, hhandle, workOf, Job.resultFrom_map]
  -- the work after the response ends with nothing to respond with
  cases Job.resultFrom session.client work
      (session.turnsAt session.jobs.length (.arrival incoming :: later)) with
  | none => rfl
  | some result => rfl

/-- A request that leads to no work leads to no request. -/
theorem requestsAt_respond {session : Session} {incoming : Incoming} {response : Response}
    (hhandle : handle session.client.settings incoming = .respond response)
    (later : List Occurrence) :
    requestsAt session.jobs.length (run session (.arrival incoming :: later)).1 = [] := by
  rw [requestsAt_arrival, hhandle, Handling.respond, workOf, Dialogue.bind,
    Job.sendingsFrom_done]
  rfl

/-- A request that gets its response later gets the one that its work comes to. -/
theorem responsesAt_later {session : Session} {incoming : Incoming}
    {work : Consultation Response}
    (hhandle : handle session.client.settings incoming = .later work)
    (later : List Occurrence) :
    responsesAt session.jobs.length (run session (.arrival incoming :: later)).1 =
      (Job.resultFrom session.client work
        (session.turnsAt session.jobs.length (.arrival incoming :: later))).toList := by
  rw [responsesAt_arrival, hhandle, workOf, Job.resultFrom_map]
  cases Job.resultFrom session.client work
      (session.turnsAt session.jobs.length (.arrival incoming :: later)) with
  | none => rfl
  | some result => rfl

/-- What is sent for a request that gets its response later is what its work sends alone. -/
theorem requestsAt_later {session : Session} {incoming : Incoming}
    {work : Consultation Response}
    (hhandle : handle session.client.settings incoming = .later work)
    (later : List Occurrence) :
    requestsAt session.jobs.length (run session (.arrival incoming :: later)).1 =
      (Job.sendingsFrom session.client work
        (session.turnsAt session.jobs.length (.arrival incoming :: later))).map (·.request) := by
  rw [requestsAt_arrival, hhandle, workOf, Job.sendingsFrom_map]

end Session

end ChatSteward.Server
