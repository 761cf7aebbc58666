import ChatSteward.Proofs.Platform.Succession

/-!
# Results

A job has its result at most once, and then it is the result that it comes to when it is alone,
given the deliveries that come in for it and the clients that they find. The results in a run of an
agenda are told at the places of the jobs, as their requests are.

## Main definitions

* `Agenda.finishedAt` — the results of the job at a place
* `Job.resultFrom` — the result that a consultation comes to in some turns

## Main results

* `Agenda.finishedAt_of_job`, `Agenda.finishedAt_beginJob` — a job has the result that it comes to
  alone
* `Job.resultFrom_map` — what is made of a result
* `Job.exists_resultFrom_of_bind` — the result of the first of two consultations in turn
* `Job.sendingsFrom_query`, `Job.resultFrom_query_eq_none_iff` — one question alone
-/

namespace ChatSteward.Platform

open Dialogue (query)

/-! ## One job -/

namespace Job

variable {First Result : Type}

/-- The result that a consultation comes to in some turns, if it does. -/
def resultFrom (client : Client) (consultation : Consultation Result) (turns : List Turn) :
    Option Result :=
  ((start client consultation).afterTurns turns).result?

theorem afterTurns_cons (job : Job Result) (turn : Turn) (turns : List Turn) :
    job.afterTurns (turn :: turns) = (job.resume turn.client turn.delivery).afterTurns turns := rfl

/-- A job that goes on by making something of its result makes it of the result that it comes to
alone. -/
theorem result?_followedBy_done (job : Job First) (client : Client) (make : First → Result)
    (turns : List Turn) :
    ((job.followedBy client fun result => .done (make result)).afterTurns turns).result? =
      (job.afterTurns turns).result?.map make := by
  -- a job that waits goes on as the same job with the same addition, so the turns are gone through
  induction turns generalizing job client with
  | nil => cases job <;> rfl
  | cons turn turns ih =>
    cases job with
    | finished result =>
      rw [followedBy, start, afterTurns_finished, afterTurns_finished]
      rfl
    | waiting request operation listing rest =>
      rw [afterTurns_cons, resume_followedBy, ih, afterTurns_cons]

/-- What is made of the result of a consultation. -/
theorem resultFrom_map (client : Client) (consultation : Consultation First)
    (make : First → Result) (turns : List Turn) :
    resultFrom client (consultation.bind fun result => .done (make result)) turns =
      (resultFrom client consultation turns).map make := by
  rw [resultFrom, start_bind, result?_followedBy_done]
  rfl

theorem sent_followedBy_done (job : Job First) (client : Client) (make : First → Result)
    (turns : List Turn) :
    (job.followedBy client fun result => .done (make result)).sent turns = job.sent turns := by
  induction turns generalizing job client with
  | nil => cases job <;> rfl
  | cons turn turns ih =>
    cases job with
    | finished result =>
      rw [followedBy, start, sent, sent, sendings_finished, sendings_finished]
      rfl
    | waiting request operation listing rest =>
      rw [sent_cons, resume_followedBy, ih, sent_cons]
      rfl

/-- A consultation that makes something of its result sends what it sends without that. -/
theorem sendingsFrom_map (client : Client) (consultation : Consultation First)
    (make : First → Result) (turns : List Turn) :
    sendingsFrom client (consultation.bind fun result => .done (make result)) turns =
      sendingsFrom client consultation turns := by
  have hsent := sent_followedBy_done (start client consultation) client make turns
  rw [← start_bind] at hsent
  exact hsent

/-- A job that has its result after what follows it has had its own before. -/
theorem exists_result?_of_followedBy {job : Job First} {client : Client}
    {next : First → Consultation Result} {turns : List Turn} {result : Result}
    (hends : ((job.followedBy client next).afterTurns turns).result? = some result) :
    ∃ first, (job.afterTurns turns).result? = some first := by
  induction turns generalizing job client with
  | nil =>
    cases job with
    | finished first => exact ⟨first, rfl⟩
    | waiting => cases hends
  | cons turn turns ih =>
    cases job with
    | finished first =>
      rw [afterTurns_finished]
      exact ⟨first, rfl⟩
    | waiting request operation listing rest =>
      rw [afterTurns_cons, resume_followedBy] at hends
      exact ih hends

/-- Of two consultations in turn, the first has come to its result if the second has. -/
theorem exists_resultFrom_of_bind {client : Client} {consultation : Consultation First}
    {next : First → Consultation Result} {turns : List Turn} {result : Result}
    (hends : resultFrom client (consultation.bind next) turns = some result) :
    ∃ first, resultFrom client consultation turns = some first := by
  rw [resultFrom, start_bind] at hends
  exact exists_result?_of_followedBy hends

@[simp] theorem resultFrom_done (client : Client) (result : Result) (turns : List Turn) :
    resultFrom client (.done result) turns = some result := by
  rw [resultFrom, start, afterTurns_finished]
  rfl

@[simp] theorem sendingsFrom_done (client : Client) (result : Result) (turns : List Turn) :
    sendingsFrom client (.done result) turns = [] := by
  rw [sendingsFrom, start, sendings_finished]
  rfl

/-! ### One question -/

section

variable {operation : Operation} (htalks : operation.immediate? = none)
  (hlist : operation ≠ .listChats)

include htalks hlist

/-- One question is one request if it is no listing of chats, or none if it cannot be sent. -/
theorem sendingsFrom_query (client : Client) (turns : List Turn) :
    sendingsFrom client (query operation) turns =
      (client.request operation .start).toOption.toList.map
        fun request => ⟨operation, .start, request⟩ := by
  cases hrequest : client.request operation .start with
  | error failure =>
    simp only [sendingsFrom, query, start, htalks, hrequest, sendings_finished]
    rfl
  | ok request =>
    have hsame := sendingsFrom_map client (query operation) (fun _ => ()) turns
    exact hsame.symm.trans (sendingsFrom_ask htalks hlist hrequest () turns)

/-- One question is answered by its first delivery, or at once if it cannot be sent. -/
theorem resultFrom_query_eq_none_iff (client : Client) (turns : List Turn) :
    resultFrom client (query operation) turns = none ↔
      turns = [] ∧ ∃ request, client.request operation .start = .ok request := by
  cases hrequest : client.request operation .start with
  | error failure =>
    have hstart : start client (query operation) = .finished (.error failure) := by
      simp only [query, start, htalks, hrequest]
    simp [resultFrom, hstart, result?]
  | ok request =>
    have hstart : start client (query operation) = .waiting request operation .start .done := by
      simp only [query, start, htalks, hrequest]
    rw [resultFrom, hstart]
    cases turns with
    | nil => simp [afterTurns, result?]
    | cons turn turns =>
      rcases resume_waiting turn.client turn.delivery request operation .start .done with
        ⟨answer, hresume⟩ | ⟨_, _, heq, -, -⟩
      · rw [afterTurns_cons, hresume, start, afterTurns_finished]
        simp [result?]
      · exact absurd heq hlist

end

end Job

/-! ## All jobs -/

namespace Agenda

variable {R : Type}

/-- The result of a job, with its place. -/
def Effect.finished? : Effect R → Option (Nat × R)
  | .finish place result => some (place, result)
  | _ => none

/-- The results of the job at a place, in order. -/
def finishedAt (place : Nat) (effects : List (Effect R)) : List R :=
  ((effects.filterMap Effect.finished?).filter fun finished => finished.1 = place).map (·.2)

@[simp] theorem finishedAt_append (place : Nat) (first second : List (Effect R)) :
    finishedAt place (first ++ second) = finishedAt place first ++ finishedAt place second := by
  rw [finishedAt, List.filterMap_append, List.filter_append, List.map_append]
  rfl

@[simp] theorem finishedAt_effectOf (place : Nat) (job : Job R) :
    finishedAt place [effectOf place job] = job.result?.toList := by
  cases job with
  | finished result => simp [finishedAt, effectOf, Effect.finished?, Job.result?]
  | waiting => rfl

theorem finishedAt_effectOf_of_ne {place other : Nat} (hne : other ≠ place) (job : Job R) :
    finishedAt place [effectOf other job] = [] := by
  cases job with
  | finished result => simp [finishedAt, effectOf, Effect.finished?, hne]
  | waiting => rfl

/-- No job has its result when a refresh begins or ends. -/
theorem finishedAt_of_refresh (agenda : Agenda R) {occurrence : Occurrence R}
    (hrefresh : occurrence = .refresh ∨ ∃ delivery, occurrence = .refreshDelivery delivery)
    (place : Nat) : finishedAt place (agenda.step occurrence).1 = [] := by
  rcases hrefresh with rfl | ⟨delivery, rfl⟩
  · rcases agenda.step_refresh_cases with hstep | ⟨failure, hstep⟩ | ⟨request, -, hstep⟩
    all_goals
      rw [hstep]
      rfl
  · rcases agenda.step_refreshDelivery_cases delivery with hstep | ⟨client, result, hstep⟩
    all_goals
      rw [hstep]
      rfl

/-- The result of a job, before an occurrence or by it, is the result after its turn. -/
theorem result?_step {agenda : Agenda R} {place : Nat} {job : Job R}
    (hjob : agenda.jobs[place]? = some job) (occurrence : Occurrence R) :
    job.result?.toList ++ finishedAt place (agenda.step occurrence).1 =
      (job.afterTurns (agenda.turn? place occurrence).toList).result?.toList := by
  obtain ⟨hlt, -⟩ := List.getElem?_eq_some_iff.mp hjob
  -- only a delivery for the place itself is a turn of the job
  cases occurrence with
  | beginJob consultation =>
    have hother := finishedAt_effectOf_of_ne (Nat.ne_of_gt hlt)
      (Job.start agenda.client consultation)
    rw [step, beginJob, hother, List.append_nil]
    rfl
  | delivery target delivery =>
    by_cases hplace : target = place
    · subst hplace
      simp only [turn?, if_pos]
      cases job with
      | finished result =>
        have hidle : agenda.sendingAt? target = none := by simp [sendingAt?, hjob, Job.sending?]
        rw [deliver_of_not_waiting hidle]
        exact List.append_nil _
      | waiting =>
        rw [deliver_of_waiting hjob, finishedAt_effectOf]
        rfl
    · have hother : finishedAt place (agenda.step (.delivery target delivery)).1 = [] := by
        simp only [step, deliver]
        split
        · exact finishedAt_effectOf_of_ne hplace _
        · rfl
      rw [hother, List.append_nil, turn?, if_neg hplace]
      rfl
  | refresh =>
    rw [agenda.finishedAt_of_refresh (.inl rfl), List.append_nil]
    rfl
  | refreshDelivery delivery =>
    rw [agenda.finishedAt_of_refresh (.inr ⟨delivery, rfl⟩), List.append_nil]
    rfl

/-- A job has the result that it comes to alone, once. -/
theorem finishedAt_of_job {agenda : Agenda R} {place : Nat} {job : Job R}
    (hjob : agenda.jobs[place]? = some job) (occurrences : List (Occurrence R)) :
    job.result?.toList ++ finishedAt place (agenda.run occurrences).1 =
      (job.afterTurns (agenda.turns place occurrences)).result?.toList := by
  -- a result that the job has already is kept apart, since only a new one is among the effects
  induction occurrences generalizing agenda job with
  | nil => exact List.append_nil _
  | cons occurrence rest ih =>
    have hnext := run_of_job hjob [occurrence]
    have hturns : agenda.turns place [occurrence] = (agenda.turn? place occurrence).toList :=
      List.append_nil _
    rw [hturns] at hnext
    rw [run, turns, Job.afterTurns_append, finishedAt_append, ← List.append_assoc,
      result?_step hjob]
    exact ih hnext

/-- The job that begins has the result that its consultation comes to alone, once. -/
theorem finishedAt_beginJob (agenda : Agenda R) (consultation : Consultation R)
    (later : List (Occurrence R)) :
    finishedAt agenda.jobs.length (agenda.run (.beginJob consultation :: later)).1 =
      (Job.resultFrom agenda.client consultation
        (agenda.turns agenda.jobs.length (.beginJob consultation :: later))).toList := by
  have hjob : (agenda.step (.beginJob consultation)).2.jobs[agenda.jobs.length]? =
      some (Job.start agenda.client consultation) :=
    List.getElem?_concat_length
  have hstep := finishedAt_effectOf agenda.jobs.length (Job.start agenda.client consultation)
  rw [run, finishedAt_append]
  change finishedAt _ [effectOf _ _] ++ _ = _
  rw [hstep, finishedAt_of_job hjob]
  rfl

end Agenda

end ChatSteward.Platform
