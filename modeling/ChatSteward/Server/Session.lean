import ChatSteward.Platform.Agenda
import ChatSteward.Server.Config
import ChatSteward.Server.Router

/-!
# Sessions

A running server: an agenda with one job for every request that arrived. A request gets its
response when it arrives or when its job is done.

## Main definitions

* `Session`, `Session.create` — a running server
* `Occurrence`, `Effect` — what occurs to a session and what it does
* `Session.step`, `Session.run` — the effects of one occurrence and of several
* `Session.serve` — an arrival with the deliveries for it alone
* `Session.diagnostic` — a session as a diagnostic text shows it
-/

namespace ChatSteward.Server

open Platform (Agenda Client Consultation Failure)

/-- A running server: jobs yield the responses that are still due. -/
abbrev Session := Agenda (Option Response)

/-- What occurs to a session. -/
inductive Occurrence where
  /-- A request arrives and begins the next job. -/
  | arrival (incoming : Incoming)
  /-- Something becomes of the request that a job has under way. -/
  | delivery (place : Nat) (delivery : Http.Delivery)
  /-- The token is to be refreshed. -/
  | refresh
  /-- Something becomes of the request of a token. -/
  | refreshDelivery (delivery : Http.Delivery)

/-- What a session does. -/
inductive Effect where
  /-- A job sends a request to the platform. -/
  | send (place : Nat) (request : Http.Request)
  /-- The request that began a job gets its response. -/
  | respond (place : Nat) (response : Response)
  /-- The refresh sends a request. -/
  | sendRefresh (request : Http.Request)
  /-- A refresh ends: with the seconds for which the token is valid, or with a failure. -/
  | refreshed (result : Except Failure Nat)

/-- What a session does when its agenda does something: a job that is done without a response
leaves nothing to do. -/
def Effect.ofAgenda? : Agenda.Effect (Option Response) → Option Effect
  | .send place request => some (.send place request)
  | .finish place (some response) => some (.respond place response)
  | .finish _ none => none
  | .sendRefresh request => some (.sendRefresh request)
  | .refreshed result => some (.refreshed result)

namespace Session

/-- A server that has just been started with a valid configuration. -/
def create (config : Config) : Except Fault Session := do
  config.validate
  let client ← (Client.create config.settings).mapError .platform
  return .ofClient client

/-- The response that a request gets when it arrives. -/
def atOnce? : Handling → Option Response
  | .atOnce response _ => some response
  | .later _ => none

/-- The work for a request, with the response that is due at its end. -/
def workOf : Handling → Consultation (Option Response)
  | .atOnce _ work => work.bind fun _ => .done none
  | .later work => work.bind fun response => .done (some response)

/-- A session after an occurrence in its agenda. -/
def follow (session : Session) (occurrence : Agenda.Occurrence (Option Response)) :
    List Effect × Session :=
  let (effects, session) := Agenda.step session occurrence
  (effects.filterMap Effect.ofAgenda?, session)

/-- A session after the arrival of a request. -/
def arrive (session : Session) (incoming : Incoming) : List Effect × Session :=
  let handling := handle session.client.settings incoming
  let (effects, after) := follow session (.beginJob (workOf handling))
  ((atOnce? handling).toList.map (.respond session.jobs.length) ++ effects, after)

/-- A session after an occurrence, and what it does. -/
def step (session : Session) : Occurrence → List Effect × Session
  | .arrival incoming => arrive session incoming
  | .delivery place delivery => follow session (.delivery place delivery)
  | .refresh => follow session .refresh
  | .refreshDelivery delivery => follow session (.refreshDelivery delivery)

/-- A session after several occurrences, and what it does on each. -/
def run (session : Session) : List Occurrence → List Effect × Session
  | [] => ([], session)
  | occurrence :: rest =>
    let (effects, session) := step session occurrence
    let (more, session) := run session rest
    (effects ++ more, session)

/-- A session after the arrival of a request and the deliveries for it alone. -/
def serve (session : Session) (incoming : Incoming) (deliveries : List Http.Delivery) :
    List Effect × Session :=
  run session (.arrival incoming :: deliveries.map (.delivery session.jobs.length))

/-- The diagnostic text of a session that was created with a configuration. -/
def diagnostic (config : Config) (session : Session) : String :=
  "AppState \x7b config: " ++ config.diagnostic ++
    ", api: " ++ session.client.diagnostic ++ " \x7d"

end Session

end ChatSteward.Server
