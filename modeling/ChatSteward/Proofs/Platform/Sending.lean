import ChatSteward.Platform.Agenda

/-!
# What is sent

The requests of an agenda in their order, each with the place of the job that sends it and the
operation that it is sent for. Jobs know nothing of each other: what is sent at one place is what
the job at this place sends when it is alone, given the deliveries that come in for it and the
clients that they find.

## Main definitions

* `Sending` — a request with the operation that it is sent for
* `Job.sendings`, `Job.sendingsFrom` — what a job or a consultation sends in some turns
* `Job.afterTurns` — what a job is after some turns
* `Agenda.sendings` — what an agenda sends, by places
* `Agenda.turns` — the turns of the job at one place

## Main results

* `Agenda.stepSendings_requests` — the requests are those that the agenda sends, in the same order
* `Agenda.sentAt_of_job` — a job sends what it sends alone
* `Agenda.run_of_job` — a job becomes what it becomes alone
* `Agenda.sentAt_beginJob` — what is sent at the place of a job that begins
* `Agenda.sentAt_of_not_begun` — what is sent at the place of a job that is yet to begin
-/

namespace ChatSteward.Platform

/-- A request with the operation that it is sent for. -/
structure Sending where
  operation : Operation
  listing : Listing
  request : Http.Request
deriving DecidableEq

/-- The path that a request is sent to, below the address of the platform. -/
def Sending.path (sending : Sending) : String := (sending.operation.call sending.listing).path

/-- A delivery for a job, with the client that it finds. -/
structure Turn where
  client : Client
  delivery : Http.Delivery
deriving DecidableEq

/-! ## One job -/

namespace Job

variable {R : Type}

/-- What a job has under way. -/
def sending? : Job R → Option Sending
  | .finished _ => none
  | .waiting request operation listing _ => some ⟨operation, listing, request⟩

/-- What a job sends in some turns, after what it has under way. -/
def sendings (job : Job R) : List Turn → List Sending
  | [] => []
  | turn :: turns =>
    (job.resume turn.client turn.delivery).sending?.toList ++
      sendings (job.resume turn.client turn.delivery) turns

/-- What a consultation sends that becomes a job and takes some turns. -/
def sendingsFrom (client : Client) (consultation : Consultation R) (turns : List Turn) :
    List Sending :=
  (start client consultation).sending?.toList ++ (start client consultation).sendings turns

@[simp] theorem sendings_finished (result : R) (turns : List Turn) :
    (finished result).sendings turns = [] := by
  induction turns with
  | nil => rfl
  | cons turn turns ih => exact ih

/-- A job after some turns. -/
def afterTurns (job : Job R) (turns : List Turn) : Job R :=
  turns.foldl (fun job turn => job.resume turn.client turn.delivery) job

@[simp] theorem afterTurns_finished (result : R) (turns : List Turn) :
    (finished result).afterTurns turns = .finished result := by
  induction turns with
  | nil => rfl
  | cons turn turns ih => exact ih

@[simp] theorem afterTurns_append (job : Job R) (first second : List Turn) :
    job.afterTurns (first ++ second) = (job.afterTurns first).afterTurns second :=
  List.foldl_append

/-- What holds of a job in every turn holds of all that it sends. -/
theorem forall_sendings (holds : Job R → Prop) (admits : Sending → Prop) {turns : List Turn}
    (hresume : ∀ job, ∀ turn ∈ turns, holds job → holds (job.resume turn.client turn.delivery))
    (hsends : ∀ job, holds job → ∀ sending ∈ job.sending?.toList, admits sending)
    {job : Job R} (hjob : holds job) : ∀ sending ∈ job.sendings turns, admits sending := by
  induction turns generalizing job with
  | nil => simp [sendings]
  | cons turn turns ih =>
    intro sending hmem
    have hnext := hresume job turn List.mem_cons_self hjob
    rcases List.mem_append.mp hmem with hmem | hmem
    · exact hsends _ hnext sending hmem
    · exact ih (fun job turn hturn => hresume job turn (List.mem_cons_of_mem _ hturn)) hnext
        sending hmem

end Job

/-! ## All jobs -/

namespace Agenda

variable {R : Type}

/-- What the job at a place has under way. -/
def sendingAt? (agenda : Agenda R) (place : Nat) : Option Sending :=
  agenda.jobs[place]?.bind Job.sending?

/-- The request of a job, with its place. -/
def Effect.sent? : Effect R → Option (Nat × Http.Request)
  | .send place request => some (place, request)
  | _ => none

/-- Requests that have led to an agenda, with their operations: a job that sends a request has it
under way afterwards. -/
def labelled (agenda : Agenda R) (requests : List (Nat × Http.Request)) : List (Nat × Sending) :=
  requests.filterMap fun sent =>
    (agenda.sendingAt? sent.1).map fun sending => (sent.1, sending)

/-- What jobs send on one occurrence, by their places. -/
def stepSendings (agenda : Agenda R) (occurrence : Occurrence R) : List (Nat × Sending) :=
  (agenda.step occurrence).2.labelled ((agenda.step occurrence).1.filterMap Effect.sent?)

/-- What jobs send on several occurrences, by their places. -/
def sendings (agenda : Agenda R) : List (Occurrence R) → List (Nat × Sending)
  | [] => []
  | occurrence :: rest =>
    agenda.stepSendings occurrence ++ sendings (agenda.step occurrence).2 rest

/-- What is sent at one place. -/
def sentAt (place : Nat) (sendings : List (Nat × Sending)) : List Sending :=
  (sendings.filter fun sent => sent.1 = place).map (·.2)

/-- The turn of the job at a place. -/
def turn? (agenda : Agenda R) (place : Nat) : Occurrence R → Option Turn
  | .delivery target delivery => if target = place then some ⟨agenda.client, delivery⟩ else none
  | _ => none

/-- The turns of the job at a place. -/
def turns (agenda : Agenda R) (place : Nat) : List (Occurrence R) → List Turn
  | [] => []
  | occurrence :: rest =>
    (agenda.turn? place occurrence).toList ++ turns (agenda.step occurrence).2 place rest

/-- The consultations that begin, in order. -/
def begun (occurrences : List (Occurrence R)) : List (Consultation R) :=
  occurrences.filterMap fun
    | .beginJob consultation => some consultation
    | _ => none

/-! ## One occurrence -/

/-- A job that is in its place sends what it has under way. -/
theorem labelled_effectOf {agenda : Agenda R} {place : Nat} {job : Job R}
    (hjob : agenda.jobs[place]? = some job) :
    agenda.labelled ([effectOf place job].filterMap Effect.sent?) =
      job.sending?.toList.map fun sending => (place, sending) := by
  have hsending : agenda.sendingAt? place = job.sending? := by
    rw [sendingAt?, hjob]
    rfl
  cases job with
  | finished => rfl
  | waiting =>
    simp only [labelled, effectOf, Effect.sent?, List.filterMap_cons, List.filterMap_nil, hsending]
    rfl

theorem stepSendings_beginJob (agenda : Agenda R) (consultation : Consultation R) :
    agenda.stepSendings (.beginJob consultation) =
      (Job.start agenda.client consultation).sending?.toList.map
        fun sending => (agenda.jobs.length, sending) :=
  labelled_effectOf List.getElem?_concat_length

/-- A delivery that meets no job that waits does nothing. -/
theorem deliver_of_not_waiting {agenda : Agenda R} {place : Nat}
    (hidle : agenda.sendingAt? place = none) (delivery : Http.Delivery) :
    agenda.step (.delivery place delivery) = ([], agenda) := by
  rw [step, deliver]
  split
  case h_1 hjob => simp [sendingAt?, hjob, Job.sending?] at hidle
  case h_2 => rfl

/-- A delivery for a place where no job has begun does nothing. -/
theorem deliver_of_none {agenda : Agenda R} {place : Nat} (hnone : agenda.jobs[place]? = none)
    (delivery : Http.Delivery) : agenda.step (.delivery place delivery) = ([], agenda) := by
  apply deliver_of_not_waiting
  rw [sendingAt?, hnone]
  rfl

theorem deliver_of_waiting {agenda : Agenda R} {place : Nat} {request : Http.Request}
    {operation : Operation} {listing : Listing} {next : Answer operation → Consultation R}
    (hjob : agenda.jobs[place]? = some (.waiting request operation listing next))
    (delivery : Http.Delivery) :
    agenda.step (.delivery place delivery) =
      ([effectOf place
          (Job.resume agenda.client delivery (.waiting request operation listing next))],
        { agenda with
          jobs := agenda.jobs.set place
            (Job.resume agenda.client delivery (.waiting request operation listing next)) }) := by
  simp only [step, deliver, hjob]

/-- The job at a place after a delivery for it. -/
theorem deliver_of_job {agenda : Agenda R} {place : Nat} {job : Job R}
    (hjob : agenda.jobs[place]? = some job) (delivery : Http.Delivery) :
    (agenda.step (.delivery place delivery)).2.jobs =
        agenda.jobs.set place (job.resume agenda.client delivery) ∧
      agenda.stepSendings (.delivery place delivery) =
        (job.resume agenda.client delivery).sending?.toList.map
          fun sending => (place, sending) := by
  obtain ⟨hlt, hget⟩ := List.getElem?_eq_some_iff.mp hjob
  cases job with
  | finished result =>
    have hidle : agenda.sendingAt? place = none := by simp [sendingAt?, hjob, Job.sending?]
    rw [stepSendings, deliver_of_not_waiting hidle]
    refine ⟨?_, rfl⟩
    rw [Job.resume_finished, ← hget, List.set_getElem_self]
  | waiting request operation listing next =>
    rw [stepSendings, deliver_of_waiting hjob]
    exact ⟨rfl, labelled_effectOf (List.getElem?_set_self hlt)⟩

/-- A refresh is under way already, fails at once, or sends the request of a token. -/
theorem step_refresh_cases (agenda : Agenda R) :
    agenda.step .refresh = ([], agenda) ∨
      (∃ failure, agenda.step .refresh = ([.refreshed (.error failure)], agenda)) ∨
      ∃ request, agenda.client.tokenRequest = .ok request ∧
        agenda.step .refresh =
          ([.sendRefresh request], { agenda with refresh := some request }) := by
  rw [step, beginRefresh]
  cases agenda.refresh with
  | some request => exact .inl rfl
  | none =>
    cases hrequest : agenda.client.tokenRequest with
    | error failure => exact .inr (.inl ⟨failure, rfl⟩)
    | ok request => exact .inr (.inr ⟨request, rfl, rfl⟩)

/-- A delivery for the refresh finds none, or ends it. -/
theorem step_refreshDelivery_cases (agenda : Agenda R) (delivery : Http.Delivery) :
    agenda.step (.refreshDelivery delivery) = ([], agenda) ∨
      ∃ client result, agenda.step (.refreshDelivery delivery) =
        ([.refreshed result], { agenda with client, refresh := none }) := by
  rw [step, endRefresh]
  cases agenda.refresh with
  | none => exact .inl rfl
  | some request => exact .inr ⟨_, _, rfl⟩

/-- Jobs do nothing when a refresh begins or ends. -/
theorem step_of_refresh (agenda : Agenda R) {occurrence : Occurrence R}
    (hrefresh : occurrence = .refresh ∨ ∃ delivery, occurrence = .refreshDelivery delivery) :
    (agenda.step occurrence).2.jobs = agenda.jobs ∧
      (agenda.step occurrence).1.filterMap Effect.sent? = [] := by
  rcases hrefresh with rfl | ⟨delivery, rfl⟩
  · rcases agenda.step_refresh_cases with hstep | ⟨failure, hstep⟩ | ⟨request, -, hstep⟩
    all_goals
      rw [hstep]
      exact ⟨rfl, rfl⟩
  · rcases agenda.step_refreshDelivery_cases delivery with hstep | ⟨client, result, hstep⟩
    all_goals
      rw [hstep]
      exact ⟨rfl, rfl⟩

theorem stepSendings_of_refresh (agenda : Agenda R) {occurrence : Occurrence R}
    (hrefresh : occurrence = .refresh ∨ ∃ delivery, occurrence = .refreshDelivery delivery) :
    agenda.stepSendings occurrence = [] := by
  rw [stepSendings, (agenda.step_of_refresh hrefresh).2]
  rfl

/-- The requests of one occurrence are those that the agenda sends. -/
theorem stepSendings_requests (agenda : Agenda R) (occurrence : Occurrence R) :
    (agenda.stepSendings occurrence).map (fun sent => (sent.1, sent.2.request)) =
      (agenda.step occurrence).1.filterMap Effect.sent? := by
  -- a job has the request under way that it has just sent
  have heffect (place : Nat) (job : Job R) :
      (job.sending?.toList.map fun sending => (place, sending)).map
          (fun sent => (sent.1, sent.2.request)) =
        [effectOf place job].filterMap Effect.sent? := by
    cases job <;> rfl
  cases occurrence with
  | beginJob consultation =>
    rw [stepSendings_beginJob]
    exact heffect _ _
  | delivery place delivery =>
    cases hjob : agenda.jobs[place]? with
    | none =>
      rw [stepSendings, deliver_of_none hjob]
      rfl
    | some job =>
      rw [(deliver_of_job hjob delivery).2, heffect]
      cases job with
      | finished => simp [step, deliver, hjob, effectOf, Effect.sent?]
      | waiting => rw [deliver_of_waiting hjob]
  | refresh =>
    rw [agenda.stepSendings_of_refresh (.inl rfl), (agenda.step_of_refresh (.inl rfl)).2]
    rfl
  | refreshDelivery delivery =>
    rw [agenda.stepSendings_of_refresh (.inr ⟨delivery, rfl⟩),
      (agenda.step_of_refresh (.inr ⟨delivery, rfl⟩)).2]
    rfl

/-- What an agenda sends besides is the request of a token. -/
theorem step_sendRefresh {agenda : Agenda R} {occurrence : Occurrence R} {request : Http.Request}
    (hmem : .sendRefresh request ∈ (agenda.step occurrence).1) :
    agenda.client.tokenRequest = .ok request := by
  have heffect (place : Nat) (job : Job R) : .sendRefresh request ∉ [effectOf place job] := by
    cases job <;> simp [effectOf]
  cases occurrence with
  | beginJob consultation => exact absurd hmem (heffect _ _)
  | delivery place delivery =>
    simp only [step, deliver] at hmem
    split at hmem
    · exact absurd hmem (heffect _ _)
    · cases hmem
  | refresh =>
    rcases agenda.step_refresh_cases with hstep | ⟨failure, hstep⟩ | ⟨sent, hrequest, hstep⟩
    · rw [hstep] at hmem
      cases hmem
    · rw [hstep] at hmem
      simp at hmem
    · rw [hstep, List.mem_singleton] at hmem
      rw [hrequest, Effect.sendRefresh.inj hmem]
  | refreshDelivery delivery =>
    rcases agenda.step_refreshDelivery_cases delivery with hstep | ⟨client, result, hstep⟩
    · rw [hstep] at hmem
      cases hmem
    · rw [hstep] at hmem
      simp at hmem

/-! ## Several occurrences -/

@[simp] theorem sentAt_append (place : Nat) (first second : List (Nat × Sending)) :
    sentAt place (first ++ second) = sentAt place first ++ sentAt place second := by
  rw [sentAt, List.filter_append, List.map_append]
  rfl

@[simp] theorem sentAt_self (place : Nat) (sendings : List Sending) :
    sentAt place (sendings.map fun sending => (place, sending)) = sendings := by
  simp [sentAt, List.filter_map, Function.comp_def]

theorem sentAt_of_ne {place other : Nat} (hne : other ≠ place) (sendings : List Sending) :
    sentAt place (sendings.map fun sending => (other, sending)) = [] := by
  simp [sentAt, List.filter_map, Function.comp_def, hne]

@[simp] theorem mem_sentAt_iff {place : Nat} {sendings : List (Nat × Sending)} {sending : Sending} :
    sending ∈ sentAt place sendings ↔ (place, sending) ∈ sendings := by
  simp [sentAt]

/-- The clients in the turns of a job have the settings of the agenda. -/
theorem turns_settings (agenda : Agenda R) (place : Nat) (occurrences : List (Occurrence R)) :
    ∀ turn ∈ agenda.turns place occurrences,
      turn.client.settings = agenda.client.settings := by
  induction occurrences generalizing agenda with
  | nil => simp [turns]
  | cons occurrence rest ih =>
    intro turn hmem
    rcases List.mem_append.mp hmem with hmem | hmem
    · cases occurrence with
      | delivery target delivery =>
        simp only [turn?, Option.mem_toList, Option.ite_none_right_eq_some] at hmem
        rw [← Option.some.inj hmem.2]
      | beginJob | refresh | refreshDelivery => simp [turn?] at hmem
    · rw [ih _ turn hmem, step_settings]

/-- What is done at other places does not touch a job; its own turn resumes it. -/
theorem step_of_job {agenda : Agenda R} {place : Nat} {job : Job R}
    (hjob : agenda.jobs[place]? = some job) (occurrence : Occurrence R) :
    match agenda.turn? place occurrence with
    | none =>
      (agenda.step occurrence).2.jobs[place]? = some job ∧
        sentAt place (agenda.stepSendings occurrence) = []
    | some turn =>
      (agenda.step occurrence).2.jobs[place]? = some (job.resume turn.client turn.delivery) ∧
        sentAt place (agenda.stepSendings occurrence) =
          (job.resume turn.client turn.delivery).sending?.toList := by
  obtain ⟨hlt, -⟩ := List.getElem?_eq_some_iff.mp hjob
  cases occurrence with
  | beginJob consultation =>
    -- the new job is the last one, and so none of those that are there
    refine ⟨?_, ?_⟩
    · exact (List.getElem?_append_left hlt).trans hjob
    · rw [stepSendings_beginJob, sentAt_of_ne (Nat.ne_of_gt hlt)]
  | delivery target delivery =>
    by_cases hplace : target = place
    · subst hplace
      obtain ⟨hjobs, hsendings⟩ := deliver_of_job hjob delivery
      simp only [turn?, if_pos]
      refine ⟨?_, ?_⟩
      · rw [hjobs, List.getElem?_set_self hlt]
      · rw [hsendings, sentAt_self]
    · simp only [turn?, if_neg hplace]
      cases hother : agenda.jobs[target]? with
      | none =>
        rw [stepSendings, deliver_of_none hother]
        exact ⟨hjob, rfl⟩
      | some other =>
        obtain ⟨hjobs, hsendings⟩ := deliver_of_job hother delivery
        refine ⟨?_, ?_⟩
        · rw [hjobs, List.getElem?_set_ne hplace, hjob]
        · rw [hsendings, sentAt_of_ne hplace]
  | refresh =>
    refine ⟨?_, ?_⟩
    · rw [(agenda.step_of_refresh (.inl rfl)).1, hjob]
    · rw [agenda.stepSendings_of_refresh (.inl rfl)]
      rfl
  | refreshDelivery delivery =>
    refine ⟨?_, ?_⟩
    · rw [(agenda.step_of_refresh (.inr ⟨delivery, rfl⟩)).1, hjob]
    · rw [agenda.stepSendings_of_refresh (.inr ⟨delivery, rfl⟩)]
      rfl

/-- A job sends what it sends alone, given the deliveries for it. -/
theorem sentAt_of_job {agenda : Agenda R} {place : Nat} {job : Job R}
    (hjob : agenda.jobs[place]? = some job) (occurrences : List (Occurrence R)) :
    sentAt place (agenda.sendings occurrences) = job.sendings (agenda.turns place occurrences) := by
  -- the job changes only in its turns, so both sides take the same ones
  induction occurrences generalizing agenda job with
  | nil => rfl
  | cons occurrence rest ih =>
    have hstep := step_of_job hjob occurrence
    rw [sendings, sentAt_append, turns]
    cases hturn : agenda.turn? place occurrence with
    | none =>
      rw [hturn] at hstep
      rw [hstep.2, ih hstep.1]
      rfl
    | some turn =>
      rw [hturn] at hstep
      rw [hstep.2, ih hstep.1]
      rfl

/-- A job is in the end what it is after its turns. -/
theorem run_of_job {agenda : Agenda R} {place : Nat} {job : Job R}
    (hjob : agenda.jobs[place]? = some job) (occurrences : List (Occurrence R)) :
    (agenda.run occurrences).2.jobs[place]? =
      some (job.afterTurns (agenda.turns place occurrences)) := by
  induction occurrences generalizing agenda job with
  | nil => exact hjob
  | cons occurrence rest ih =>
    have hstep := step_of_job hjob occurrence
    rw [turns]
    cases hturn : agenda.turn? place occurrence with
    | none =>
      rw [hturn] at hstep
      exact ih hstep.1
    | some turn =>
      rw [hturn] at hstep
      exact ih hstep.1

/-- What is sent at the place of a job that begins is what its consultation sends alone. -/
theorem sentAt_beginJob (agenda : Agenda R) (consultation : Consultation R)
    (later : List (Occurrence R)) :
    sentAt agenda.jobs.length (agenda.sendings (.beginJob consultation :: later)) =
      Job.sendingsFrom agenda.client consultation
        (agenda.turns agenda.jobs.length (.beginJob consultation :: later)) := by
  have hjob : (agenda.step (.beginJob consultation)).2.jobs[agenda.jobs.length]? =
      some (Job.start agenda.client consultation) :=
    List.getElem?_concat_length
  rw [sendings, sentAt_append, stepSendings_beginJob, sentAt_self, sentAt_of_job hjob]
  rfl

@[simp] theorem begun_append (first second : List (Occurrence R)) :
    begun (first ++ second) = begun first ++ begun second :=
  List.filterMap_append

theorem exists_beginJob {occurrence : Occurrence R} (hbegins : begun [occurrence] ≠ []) :
    ∃ consultation, occurrence = .beginJob consultation := by
  cases occurrence with
  | beginJob consultation => exact ⟨consultation, rfl⟩
  | delivery | refresh | refreshDelivery => exact absurd rfl hbegins

/-- An occurrence that begins no job sends nothing at a place where there is none. -/
theorem step_of_no_job {agenda : Agenda R} {place : Nat} (hplace : agenda.jobs.length ≤ place)
    {occurrence : Occurrence R} (hbegins : begun [occurrence] = []) :
    (agenda.step occurrence).2.jobs.length = agenda.jobs.length ∧
      sentAt place (agenda.stepSendings occurrence) = [] := by
  cases occurrence with
  | beginJob consultation => cases hbegins
  | delivery target delivery =>
    cases hjob : agenda.jobs[target]? with
    | none =>
      rw [stepSendings, deliver_of_none hjob]
      exact ⟨rfl, rfl⟩
    | some job =>
      -- the job that takes the delivery stands at a place before this one
      obtain ⟨hlt, -⟩ := List.getElem?_eq_some_iff.mp hjob
      obtain ⟨hjobs, hsendings⟩ := deliver_of_job hjob delivery
      rw [hjobs, hsendings]
      exact ⟨List.length_set, sentAt_of_ne (Nat.ne_of_lt (Nat.lt_of_lt_of_le hlt hplace)) _⟩
  | refresh =>
    rw [(agenda.step_of_refresh (.inl rfl)).1, agenda.stepSendings_of_refresh (.inl rfl)]
    exact ⟨rfl, rfl⟩
  | refreshDelivery delivery =>
    rw [(agenda.step_of_refresh (.inr ⟨delivery, rfl⟩)).1,
      agenda.stepSendings_of_refresh (.inr ⟨delivery, rfl⟩)]
    exact ⟨rfl, rfl⟩

/-- At a place where no job has begun, nothing is sent until one begins there; what is sent then
is what its consultation sends alone. -/
theorem sentAt_of_not_begun {agenda : Agenda R} {place : Nat}
    (hplace : agenda.jobs.length ≤ place) (occurrences : List (Occurrence R)) :
    ((begun occurrences)[place - agenda.jobs.length]? = none ∧
        sentAt place (agenda.sendings occurrences) = []) ∨
      ∃ client consultation turns,
        (begun occurrences)[place - agenda.jobs.length]? = some consultation ∧
        client.settings = agenda.client.settings ∧
        (∀ turn ∈ turns, turn.client.settings = agenda.client.settings) ∧
        sentAt place (agenda.sendings occurrences) =
          Job.sendingsFrom client consultation turns := by
  induction occurrences generalizing agenda with
  | nil => exact .inl ⟨rfl, rfl⟩
  | cons occurrence rest ih =>
    have hsettings := step_settings agenda occurrence
    by_cases hbegins : begun [occurrence] = []
    · have hbegun : begun (occurrence :: rest) = begun rest := by
        rw [← List.singleton_append, begun_append, hbegins, List.nil_append]
      obtain ⟨hlength, hnothing⟩ := step_of_no_job hplace hbegins
      rw [sendings, sentAt_append, hbegun, hnothing, List.nil_append, ← hlength, ← hsettings]
      exact ih (hlength ▸ hplace)
    · obtain ⟨consultation, rfl⟩ := exists_beginJob hbegins
      have hbegun : begun (.beginJob consultation :: rest) = consultation :: begun rest := rfl
      rw [hbegun]
      by_cases hhere : agenda.jobs.length = place
      · -- the job begins at this place, and what follows are its turns
        subst hhere
        refine .inr ⟨agenda.client, consultation, _, ?_, rfl,
          turns_settings agenda agenda.jobs.length (.beginJob consultation :: rest),
          agenda.sentAt_beginJob consultation rest⟩
        rw [Nat.sub_self]
        rfl
      · -- the job begins before this place, where still none has begun
        have hlater : agenda.jobs.length + 1 ≤ place := Nat.lt_of_le_of_ne hplace hhere
        have hlength : (agenda.step (.beginJob consultation)).2.jobs.length =
            agenda.jobs.length + 1 := List.length_append
        have hindex : place - agenda.jobs.length = place - (agenda.jobs.length + 1) + 1 := by
          omega
        rw [sendings, sentAt_append, stepSendings_beginJob, sentAt_of_ne hhere, List.nil_append,
          hindex, List.getElem?_cons_succ, ← hlength, ← hsettings]
        exact ih (hlength ▸ hlater)

end Agenda

end ChatSteward.Platform
