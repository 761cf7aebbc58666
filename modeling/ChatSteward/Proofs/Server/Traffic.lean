import ChatSteward.Proofs.Platform.Sending
import ChatSteward.Server.Session

/-!
# The traffic of a session

A session is an agenda: every request that arrives begins the work on it as the next job, so the
job at a place works on the request that arrived there. Responses aside, a session does what its
agenda does.

## Main definitions

* `arrivals` — the requests that arrive, each at its place
* `Session.sendings` — what a session sends to the platform, by places

## Main results

* `Session.sendings_requests` — the requests are those that the session sends, in the same order
* `Session.sentAt_cases` — what is sent at a place is what the work on its request sends alone
* `Session.refresh_built` — what is sent besides are requests of a token
-/

namespace ChatSteward.Server

open Platform (Agenda Client Job Sending Settings)

/-- The requests that arrive, in order: each begins the job at its place. -/
def arrivals (occurrences : List Occurrence) : List Incoming :=
  occurrences.filterMap fun
    | .arrival incoming => some incoming
    | _ => none

/-- The request of a job to the platform, with the place of the job. -/
def Effect.sent? : Effect → Option (Nat × Http.Request)
  | .send place request => some (place, request)
  | _ => none

/-- What an occurrence is for the agenda of a session with some settings. -/
def Occurrence.inAgenda (settings : Settings) :
    Occurrence → Agenda.Occurrence (Option Response)
  | .arrival incoming => .beginJob (Session.workOf (handle settings incoming))
  | .delivery place delivered => .delivery place delivered
  | .refresh => .refresh
  | .refreshDelivery delivered => .refreshDelivery delivered

namespace Session

/-- What a session sends to the platform, by the places of its jobs. -/
def sendings (session : Session) : List Occurrence → List (Nat × Sending)
  | [] => []
  | occurrence :: rest =>
    Agenda.labelled (step session occurrence).2
        ((step session occurrence).1.filterMap Effect.sent?) ++
      sendings (step session occurrence).2 rest

/-! ## Sessions as agendas -/

theorem sent?_ofAgenda (effects : List (Agenda.Effect (Option Response))) :
    (effects.filterMap Effect.ofAgenda?).filterMap Effect.sent? =
      effects.filterMap Agenda.Effect.sent? := by
  rw [List.filterMap_filterMap]
  congr 1
  funext effect
  cases effect with
  | finish place result => cases result <;> rfl
  | send | sendRefresh | refreshed => rfl

/-- A session does on an occurrence what its agenda does, responses aside. -/
theorem step_agenda (session : Session) (occurrence : Occurrence) :
    (step session occurrence).2 =
        (Agenda.step session (occurrence.inAgenda session.client.settings)).2 ∧
      (step session occurrence).1.filterMap Effect.sent? =
        (Agenda.step session (occurrence.inAgenda session.client.settings)).1.filterMap
          Agenda.Effect.sent? := by
  cases occurrence with
  | arrival incoming =>
    refine ⟨rfl, ?_⟩
    -- a response at once comes first and is no request to the platform
    simp only [step, arrive, follow, List.filterMap_append, sent?_ofAgenda]
    cases atOnce? (handle session.client.settings incoming) <;> rfl
  | delivery place delivery => exact ⟨rfl, sent?_ofAgenda _⟩
  | refresh => exact ⟨rfl, sent?_ofAgenda _⟩
  | refreshDelivery delivery => exact ⟨rfl, sent?_ofAgenda _⟩

/-- No occurrence changes the settings of a session. -/
@[simp] theorem step_settings (session : Session) (occurrence : Occurrence) :
    (step session occurrence).2.client.settings = session.client.settings := by
  rw [(step_agenda session occurrence).1]
  exact Agenda.step_settings _ _

/-- A session sends what its agenda sends. -/
theorem sendings_agenda (session : Session) (occurrences : List Occurrence) :
    sendings session occurrences =
      Agenda.sendings session
        (occurrences.map (Occurrence.inAgenda session.client.settings)) := by
  induction occurrences generalizing session with
  | nil => rfl
  | cons occurrence rest ih =>
    obtain ⟨hsession, hsent⟩ := step_agenda session occurrence
    rw [sendings, List.map_cons, Agenda.sendings, Agenda.stepSendings, ih, step_settings, hsent,
      hsession]

theorem begun_inAgenda (settings : Settings) (occurrences : List Occurrence) :
    Agenda.begun (occurrences.map (Occurrence.inAgenda settings)) =
      (arrivals occurrences).map fun incoming => workOf (handle settings incoming) := by
  rw [Agenda.begun, arrivals, List.filterMap_map, List.map_filterMap]
  congr 1
  funext occurrence
  cases occurrence <;> rfl

/-- The requests are those that the session sends, in the same order. -/
theorem sendings_requests (session : Session) (occurrences : List Occurrence) :
    (sendings session occurrences).map (fun sent => (sent.1, sent.2.request)) =
      (run session occurrences).1.filterMap Effect.sent? := by
  induction occurrences generalizing session with
  | nil => rfl
  | cons occurrence rest ih =>
    obtain ⟨hsession, hsent⟩ := step_agenda session occurrence
    rw [sendings, List.map_append, ih, run, List.filterMap_append, hsession, hsent]
    congr 1
    exact Agenda.stepSendings_requests _ _

/-- What is sent at a place of a session without jobs is what the work on the request that
arrives there sends alone. -/
theorem sentAt_cases {session : Session} (hfresh : session.jobs = []) (place : Nat)
    (occurrences : List Occurrence) :
    ((arrivals occurrences)[place]? = none ∧
        Agenda.sentAt place (sendings session occurrences) = []) ∨
      ∃ incoming client turns, (arrivals occurrences)[place]? = some incoming ∧
        client.settings = session.client.settings ∧
        (∀ turn ∈ turns, turn.client.settings = session.client.settings) ∧
        Agenda.sentAt place (sendings session occurrences) =
          Job.sendingsFrom client (workOf (handle session.client.settings incoming)) turns := by
  have hplace : List.length session.jobs ≤ place := by
    rw [hfresh]
    exact Nat.zero_le place
  have hcases := Agenda.sentAt_of_not_begun hplace
    (occurrences.map (Occurrence.inAgenda session.client.settings))
  rw [hfresh, List.length_nil, Nat.sub_zero, begun_inAgenda, List.getElem?_map,
    ← sendings_agenda] at hcases
  rcases hcases with
    ⟨hnone, hnothing⟩ | ⟨client, consultation, turns, hsome, hclient, hturns, hsent⟩
  · exact .inl ⟨Option.map_eq_none_iff.mp hnone, hnothing⟩
  · obtain ⟨incoming, hincoming, rfl⟩ := Option.map_eq_some_iff.mp hsome
    exact .inr ⟨incoming, client, turns, hincoming, hclient, hturns, hsent⟩

/-! ## Requests of a token -/

/-- What a session sends for itself is the request of a token. -/
theorem step_refresh {session : Session} {occurrence : Occurrence} {request : Http.Request}
    (hmem : .sendRefresh request ∈ (step session occurrence).1) :
    session.client.tokenRequest = .ok request := by
  have hagenda : .sendRefresh request ∈
      (Agenda.step session (occurrence.inAgenda session.client.settings)).1 := by
    have hfollow (found : Agenda.Occurrence (Option Response))
        (hfound : .sendRefresh request ∈ (follow session found).1) :
        .sendRefresh request ∈ (Agenda.step session found).1 := by
      obtain ⟨effect, heffect, heq⟩ := List.mem_filterMap.mp hfound
      cases effect with
      | sendRefresh =>
        obtain rfl := Effect.sendRefresh.inj (Option.some.inj heq)
        exact heffect
      | finish place result => cases result <;> cases heq
      | send | refreshed => cases heq
    cases occurrence with
    | arrival incoming =>
      rcases List.mem_append.mp hmem with hmem | hmem
      · simp at hmem
      · exact hfollow _ hmem
    | delivery | refresh | refreshDelivery => exact hfollow _ hmem
  exact Agenda.step_sendRefresh hagenda

/-- What a session sends for itself is built from the exchange of its credentials. -/
theorem refresh_built {session : Session} {occurrences : List Occurrence}
    {request : Http.Request} (hmem : .sendRefresh request ∈ (run session occurrences).1) :
    ∃ client : Client, client.settings = session.client.settings ∧
      client.tokenRequest = .ok request := by
  induction occurrences generalizing session with
  | nil => simp [run] at hmem
  | cons occurrence rest ih =>
    rcases List.mem_append.mp hmem with hmem | hmem
    · exact ⟨session.client, rfl, step_refresh hmem⟩
    · obtain ⟨client, hclient, hrequest⟩ := ih hmem
      exact ⟨client, hclient.trans (step_settings session occurrence), hrequest⟩

end Session

end ChatSteward.Server
