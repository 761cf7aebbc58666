import ChatSteward.Platform.Agenda
import Mathlib.Data.List.Forall2

/-!
# The secret of the settings

Two clients whose settings differ in the secret alone, to whom the same occurs, do the same: they
send the same requests, have the same results, and hold the same token. Only the request of a
token tells the secret, in its body.

A run with one secret is the image of a run with any other: what is done is the same, but for the
bodies of the requests of a token, which tell the one secret or the other. So what holds of each
step for one secret need not be proved for two.

## Main definitions

* `Settings.withSecret`, `Client.withSecret`, `Agenda.withSecret` — the same with another secret
* `credentials` — what the body of the request of a token tells
* `AlikeButSecret` — things done that are the same, but for the secret in the body of an exchange

## Main results

* `Client.create_eq` — the settings of a client are those that it was created with
* `Client.tokenRequest_withSecret` — the request of a token differs in nothing but its body
* `Job.start_withSecret`, `Job.resume_withSecret` — jobs know nothing of the secret
* `Agenda.run_withSecret` — a run with another secret is an image of the run
* `Agenda.run_alike` — two runs with different secrets
-/

namespace ChatSteward.Platform

open Json (Value)

/-! ## Another secret -/

/-- The settings with another secret. -/
def Settings.withSecret (settings : Settings) (secret : String) : Settings :=
  { settings with appSecret := secret }

/-- A client with another secret. -/
def Client.withSecret (client : Client) (secret : String) : Client :=
  { client with settings := client.settings.withSecret secret }

/-- What is told to be granted a token: the id of the application and its secret. -/
def credentials (appId secret : String) : Value :=
  .object [("app_id", .text appId), ("app_secret", .text secret)]

/-- A request of a token with the credentials of its body replaced. -/
def tellingSecret (appId secret : String) (request : Http.Request) : Http.Request :=
  { request with body := some (credentials appId secret).written }

theorem sorted_credentials (appId secret : String) :
    (credentials appId secret).sorted = credentials appId secret := by
  have horder : ¬ "app_secret" < "app_id" := by decide
  have hne : "app_secret" ≠ "app_id" := by decide
  simp only [credentials, Value.sorted, Value.sortedMembers, Dictionary.ofPairs, List.foldl_cons,
    List.foldl_nil, Dictionary.insert, if_neg horder, if_neg hne]

/-- What keeps settings from being worked with is the same for all secrets that are no blanks. -/
theorem Settings.validate_withSecret (settings : Settings) {first second : String}
    (hfirst : Text.trim first.toList ≠ []) (hsecond : Text.trim second.toList ≠ []) :
    (settings.withSecret first).validate = (settings.withSecret second).validate := by
  have hblank {secret : String} (hsecret : Text.trim secret.toList ≠ []) :
      ¬ (Text.trim (settings.withSecret secret).appSecret.toList).isEmpty = true :=
    fun hempty => hsecret (List.isEmpty_iff.mp hempty)
  rw [validate, validate, if_neg (hblank hfirst), if_neg (hblank hsecond)]
  rfl

/-- What may be told of settings tells that there is a secret, but not which. -/
theorem Settings.metadata_withSecret (settings : Settings) {first second : String}
    (hfirst : Text.trim first.toList ≠ []) (hsecond : Text.trim second.toList ≠ []) :
    (settings.withSecret first).metadata = (settings.withSecret second).metadata := by
  have hnonempty {secret : String} (hsecret : Text.trim secret.toList ≠ []) :
      (settings.withSecret secret).appSecret.isEmpty = false := by
    refine Bool.eq_false_iff.mpr fun hempty => hsecret ?_
    rw [String.isEmpty_iff] at hempty
    rw [← show (settings.withSecret secret).appSecret = secret from rfl, hempty]
    rfl
  rw [metadata, metadata, hnonempty hfirst, hnonempty hsecond]
  rfl

namespace Client

/-- A client of settings that can be worked with has these settings and no token. -/
theorem create_eq (settings : Settings) :
    create settings = settings.validate.map fun _ => ⟨settings, none⟩ := rfl

/-- The body of a call has no part in whether its request can be built, nor in the rest of it. -/
theorem build_withBody (client : Client) (authorization : Option String) (call : Call)
    (body : Value) :
    client.build authorization { call with body := some body } =
      (client.build authorization call).map fun request =>
        { request with body := some body.sorted.written } := by
  unfold build
  cases Http.Url.parse? (client.settings.apiBase ++ call.path) with
  | none => rfl
  | some base =>
    by_cases htext : ¬ authorization.all Http.isHeaderText = true
    · simp only [if_pos htext, Except.map]
    · by_cases hsendable : ¬ (base.withQuery call.query).isRequestable = true
      · simp only [if_neg htext, if_pos hsendable, Except.map]
      · simp only [if_neg htext, if_neg hsendable, Except.map, Option.map_some]

/-- The request of a token differs from that with another secret in nothing but its body. -/
theorem tokenRequest_withSecret (client : Client) (secret : String) :
    (client.withSecret secret).tokenRequest =
      client.tokenRequest.map (tellingSecret client.settings.appId secret) := by
  have hbuild := client.build_withBody none (tokenCall client.settings)
    (credentials client.settings.appId secret)
  rw [sorted_credentials] at hbuild
  exact hbuild

/-- Taking up a token is the same with another secret. -/
theorem acceptToken_withSecret (client : Client) (secret appId : String)
    (request : Http.Request) (delivery : Http.Delivery) :
    (client.withSecret secret).acceptToken (tellingSecret appId secret request) delivery =
      ((client.acceptToken request delivery).1.withSecret secret,
        (client.acceptToken request delivery).2) := by
  -- of the request only the address matters
  have hurl : (tellingSecret appId secret request).url = request.url := rfl
  rw [acceptToken, acceptToken, hurl]
  cases (readBody request.url delivery).bind readToken <;> rfl

end Client

namespace Job

variable {R : Type}

/-- A job starts the same with another secret. -/
theorem start_withSecret (client : Client) (secret : String) (consultation : Consultation R) :
    start (client.withSecret secret) consultation = start client consultation := by
  induction consultation with
  | done result => rfl
  | ask operation next ih =>
    have hrequest : (client.withSecret secret).request operation .start =
        client.request operation .start := rfl
    rw [start, start, hrequest]
    simp only [ih]

/-- A job goes on the same with another secret. -/
theorem resume_withSecret (client : Client) (secret : String) (delivery : Http.Delivery)
    (job : Job R) :
    job.resume (client.withSecret secret) delivery = job.resume client delivery := by
  cases job with
  | finished result => rfl
  | waiting request operation listing next =>
    have hrequest (listing : Listing) : (client.withSecret secret).request operation listing =
        client.request operation listing := rfl
    simp only [resume, hrequest, start_withSecret]

end Job

/-! ## Things done -/

/-- Whether two things that are done are the same, or both are the exchange of credentials for a
token, by requests that differ in nothing but the secret in their bodies. -/
inductive AlikeButSecret {E : Type} (exchange : Http.Request → E)
    (appId first second : String) : E → E → Prop where
  | same {effect : E} (hother : ∀ request, effect ≠ exchange request) :
      AlikeButSecret exchange appId first second effect effect
  | exchange (request : Http.Request) :
      AlikeButSecret exchange appId first second
        (exchange (tellingSecret appId first request))
        (exchange (tellingSecret appId second request))

namespace Agenda

variable {R : Type}

/-- What is done with another secret. -/
def Effect.withSecret (appId secret : String) : Effect R → Effect R
  | .sendRefresh request => .sendRefresh (tellingSecret appId secret request)
  | .send place request => .send place request
  | .finish place result => .finish place result
  | .refreshed result => .refreshed result

/-- What is done with two secrets differs in the secret of an exchange. -/
theorem Effect.alike_withSecret (appId first second : String) (effect : Effect R) :
    AlikeButSecret .sendRefresh appId first second (effect.withSecret appId first)
      (effect.withSecret appId second) := by
  cases effect with
  | sendRefresh request => exact .exchange request
  | send | finish | refreshed => exact .same fun _ heq => by cases heq

/-- An agenda with another secret. -/
def withSecret (agenda : Agenda R) (secret : String) : Agenda R where
  client := agenda.client.withSecret secret
  refresh := agenda.refresh.map (tellingSecret agenda.client.settings.appId secret)
  jobs := agenda.jobs

/-- On one occurrence the same is done with another secret. -/
theorem step_withSecret (agenda : Agenda R) (secret : String) (occurrence : Occurrence R) :
    (agenda.withSecret secret).step occurrence =
      ((agenda.step occurrence).1.map (Effect.withSecret agenda.client.settings.appId secret),
        (agenda.step occurrence).2.withSecret secret) := by
  have heffect (place : Nat) (job : Job R) :
      [effectOf place job] =
        [effectOf place job].map (Effect.withSecret agenda.client.settings.appId secret) := by
    cases job <;> rfl
  cases occurrence with
  | beginJob consultation =>
    simp only [step, beginJob, withSecret, Job.start_withSecret, ← heffect]
  | delivery place delivery =>
    simp only [step, deliver, withSecret]
    cases agenda.jobs[place]? with
    | none => rfl
    | some job =>
      cases job with
      | finished => rfl
      | waiting => simp only [Job.resume_withSecret, ← heffect]
  | refresh =>
    simp only [step, beginRefresh, withSecret, Client.tokenRequest_withSecret]
    cases hrefresh : agenda.refresh with
    | some request => simp only [Option.map_some, List.map_nil, hrefresh]
    | none =>
      cases agenda.client.tokenRequest with
      | error failure =>
        simp only [Option.map_none, Except.map, List.map_cons, List.map_nil, Effect.withSecret,
          hrefresh]
      | ok request =>
        simp only [Option.map_none, Option.map_some, Except.map, List.map_cons, List.map_nil,
          Effect.withSecret]
  | refreshDelivery delivery =>
    cases hrefresh : agenda.refresh with
    | none => simp only [step, endRefresh, withSecret, hrefresh, Option.map_none, List.map_nil]
    | some request =>
      simp only [step, endRefresh, withSecret, hrefresh, Option.map_some, Option.map_none,
        Client.acceptToken_withSecret, List.map_cons, List.map_nil, Effect.withSecret]

/-- In a run the same is done with another secret. -/
theorem run_withSecret (agenda : Agenda R) (secret : String)
    (occurrences : List (Occurrence R)) :
    (agenda.withSecret secret).run occurrences =
      ((agenda.run occurrences).1.map (Effect.withSecret agenda.client.settings.appId secret),
        (agenda.run occurrences).2.withSecret secret) := by
  induction occurrences generalizing agenda with
  | nil => rfl
  | cons occurrence rest ih =>
    simp only [run, step_withSecret, ih, step_settings, List.map_append]

/-- Two runs whose secrets differ, to which the same occurs: what is done differs in the secrets
that the exchanges tell, and nothing that is told of the clients afterwards differs. -/
theorem run_alike (agenda : Agenda R) (first second : String)
    (occurrences : List (Occurrence R)) :
    List.Forall₂ (AlikeButSecret .sendRefresh agenda.client.settings.appId first second)
        ((agenda.withSecret first).run occurrences).1
        ((agenda.withSecret second).run occurrences).1 ∧
      ((agenda.withSecret first).run occurrences).2.client.token =
        ((agenda.withSecret second).run occurrences).2.client.token ∧
      ((agenda.withSecret first).run occurrences).2.client.diagnostic =
        ((agenda.withSecret second).run occurrences).2.client.diagnostic := by
  rw [run_withSecret, run_withSecret]
  refine ⟨?_, rfl, rfl⟩
  rw [List.forall₂_map_left_iff, List.forall₂_map_right_iff, List.forall₂_same]
  exact fun effect _ => effect.alike_withSecret _ first second

end Agenda

end ChatSteward.Platform
