import ChatSteward.Proofs.Platform.Secrecy
import ChatSteward.Proofs.Server.Traffic

/-!
# The secret of the configuration

Two servers whose configurations differ in the secret alone, neither of which is blank. They are
refused for the same reasons, and on the same occurrences, with the same answers of the platform,
they respond alike, send the platform the same requests, and end their refreshes alike; nothing
that is told of them differs. Only the requests of a token tell the secrets, each in the member of
its body that is meant for it.

## Main definitions

* `Config.withSecret` — a configuration with another secret
* `Effect.withSecret` — what a session does with another secret

## Main results

* `handle_withSecret` — no request is handled in the light of the secret
* `Session.create_eq` — what decides whether a session is created, and which one it is
* `Session.run_withSecret` — a run with another secret is an image of the run
* `secret_stays_in_token_request` — whole runs of servers, of clients, and of commands
-/

namespace ChatSteward.Server

open Platform (Agenda AlikeButSecret Client Failure Settings tellingSecret)

/-! ## Configurations -/

/-- A configuration with another secret. -/
def Config.withSecret (config : Config) (secret : String) : Config :=
  { config with settings := config.settings.withSecret secret }

/-- What keeps a configuration from being worked with is the same for all secrets that are no
blanks. -/
theorem Config.validate_withSecret (config : Config) {first second : String}
    (hfirst : Text.trim first.toList ≠ []) (hsecond : Text.trim second.toList ≠ []) :
    (config.withSecret first).validate = (config.withSecret second).validate := by
  have hsettings : (config.withSecret first).settings.validate =
      (config.withSecret second).settings.validate :=
    config.settings.validate_withSecret hfirst hsecond
  rw [validate, validate, hsettings]
  rfl

/-- No request is handled in the light of the secret. -/
@[simp] theorem handle_withSecret (settings : Settings) (secret : String) (incoming : Incoming) :
    handle (settings.withSecret secret) incoming = handle settings incoming := rfl

/-! ## Things done -/

/-- What a session does with another secret. -/
def Effect.withSecret (appId secret : String) : Effect → Effect
  | .sendRefresh request => .sendRefresh (tellingSecret appId secret request)
  | .send place request => .send place request
  | .respond place response => .respond place response
  | .refreshed result => .refreshed result

/-- What is done with two secrets differs in the secret of an exchange. -/
theorem Effect.alike_withSecret (appId first second : String) (effect : Effect) :
    AlikeButSecret .sendRefresh appId first second (effect.withSecret appId first)
      (effect.withSecret appId second) := by
  cases effect with
  | sendRefresh request => exact .exchange request
  | send | respond | refreshed => exact .same fun _ heq => by cases heq

theorem Effect.ofAgenda?_withSecret (appId secret : String)
    (effects : List (Agenda.Effect (Option Response))) :
    (effects.map (Agenda.Effect.withSecret appId secret)).filterMap ofAgenda? =
      (effects.filterMap ofAgenda?).map (withSecret appId secret) := by
  rw [List.filterMap_map, List.map_filterMap]
  congr 1
  funext effect
  cases effect with
  | finish place result => cases result <;> rfl
  | send | sendRefresh | refreshed => rfl

/-! ## Sessions -/

namespace Session

/-- A session of a configuration that can be worked with is a client without jobs. -/
theorem create_eq (config : Config) :
    create config = config.validate.map fun _ => .ofClient ⟨config.settings, none⟩ := by
  rw [create]
  cases hvalid : config.validate with
  | error fault => rfl
  | ok valid =>
    -- the settings have been judged already, together with the rest of the configuration
    have hsettings : config.settings.validate = .ok () := by
      rw [Config.validate] at hvalid
      cases haddress : config.socketAddress with
      | error fault =>
        rw [haddress] at hvalid
        cases hvalid
      | ok address =>
        rw [haddress] at hvalid
        cases hsettings : config.settings.validate with
        | error failure =>
          rw [hsettings] at hvalid
          cases hvalid
        | ok => rfl
    rw [Client.create_eq, hsettings]
    rfl

/-- What follows in the agenda is the same with another secret. -/
theorem follow_withSecret (session : Session) (secret : String)
    (occurrence : Agenda.Occurrence (Option Response)) :
    follow (session.withSecret secret) occurrence =
      ((follow session occurrence).1.map
          (Effect.withSecret session.client.settings.appId secret),
        Agenda.withSecret (follow session occurrence).2 secret) := by
  simp only [follow, Agenda.step_withSecret, Effect.ofAgenda?_withSecret]

/-- On one occurrence a session does the same with another secret. -/
theorem step_withSecret (session : Session) (secret : String) (occurrence : Occurrence) :
    step (session.withSecret secret) occurrence =
      ((step session occurrence).1.map (Effect.withSecret session.client.settings.appId secret),
        Agenda.withSecret (step session occurrence).2 secret) := by
  cases occurrence with
  | arrival incoming =>
    have hhandle : handle (session.withSecret secret).client.settings incoming =
        handle session.client.settings incoming :=
      handle_withSecret session.client.settings secret incoming
    simp only [step, arrive, hhandle, follow_withSecret, List.map_append]
    -- a response at once tells no more of the secret than one that is due later
    cases atOnce? (handle session.client.settings incoming) <;> rfl
  | delivery place delivery => exact follow_withSecret session secret (.delivery place delivery)
  | refresh => exact follow_withSecret session secret .refresh
  | refreshDelivery delivery => exact follow_withSecret session secret (.refreshDelivery delivery)

/-- In a run a session does the same with another secret. -/
theorem run_withSecret (session : Session) (secret : String) (occurrences : List Occurrence) :
    run (session.withSecret secret) occurrences =
      ((run session occurrences).1.map (Effect.withSecret session.client.settings.appId secret),
        Agenda.withSecret (run session occurrences).2 secret) := by
  induction occurrences generalizing session with
  | nil => rfl
  | cons occurrence rest ih =>
    simp only [run, step_withSecret, ih, step_settings, List.map_append]

/-- Two runs whose secrets differ, to which the same occurs: what is done differs in the secrets
that the exchanges tell, and nothing that is told of them afterwards differs. -/
theorem run_alike (session : Session) (config : Config) (first second : String)
    (occurrences : List Occurrence) :
    List.Forall₂ (AlikeButSecret .sendRefresh session.client.settings.appId first second)
        (run (session.withSecret first) occurrences).1
        (run (session.withSecret second) occurrences).1 ∧
      (run (session.withSecret first) occurrences).2.client.token =
        (run (session.withSecret second) occurrences).2.client.token ∧
      diagnostic (config.withSecret first) (run (session.withSecret first) occurrences).2 =
        diagnostic (config.withSecret second) (run (session.withSecret second) occurrences).2 := by
  rw [run_withSecret, run_withSecret]
  refine ⟨?_, rfl, rfl⟩
  rw [List.forall₂_map_left_iff, List.forall₂_map_right_iff, List.forall₂_same]
  exact fun effect _ => effect.alike_withSecret _ first second

end Session

/-! ## Whole systems -/

/-- A configuration with two secrets, neither of which is blank. The same is told of it, the same
keeps a server or a client from being created with it, and commands reply alike. From the creation
of a server on, whatever arrives, comes in for its requests, or is refreshed: its responses, its
requests to the platform and the ends of its refreshes are the same, but for the secrets in the
bodies of the requests of a token; and so it is with all operations of a client, whatever they are
asked for. -/
theorem secret_stays_in_token_request (config : Config) {first second : String}
    (hfirst : Text.trim first.toList ≠ []) (hsecond : Text.trim second.toList ≠ []) :
    ((config.withSecret first).diagnostic = (config.withSecret second).diagnostic ∧
      (config.withSecret first).settings.diagnostic =
        (config.withSecret second).settings.diagnostic ∧
      (config.withSecret first).settings.metadata =
        (config.withSecret second).settings.metadata) ∧
    (∀ fault, Session.create (config.withSecret first) = .error fault ↔
      Session.create (config.withSecret second) = .error fault) ∧
    (∀ failure, Client.create (config.withSecret first).settings = .error failure ↔
      Client.create (config.withSecret second).settings = .error failure) ∧
    (∀ user line, Bot.respond (config.withSecret first).settings user line =
      Bot.respond (config.withSecret second).settings user line) ∧
    (∀ one other, Session.create (config.withSecret first) = .ok one →
      Session.create (config.withSecret second) = .ok other → ∀ occurrences,
        List.Forall₂ (AlikeButSecret .sendRefresh config.settings.appId first second)
            (Session.run one occurrences).1 (Session.run other occurrences).1 ∧
          (Session.run one occurrences).2.client.token =
            (Session.run other occurrences).2.client.token ∧
          Session.diagnostic (config.withSecret first) (Session.run one occurrences).2 =
            Session.diagnostic (config.withSecret second) (Session.run other occurrences).2) ∧
    ∀ one other, Client.create (config.withSecret first).settings = .ok one →
      Client.create (config.withSecret second).settings = .ok other →
      ∀ (R : Type) (occurrences : List (Agenda.Occurrence R)),
        List.Forall₂ (AlikeButSecret .sendRefresh config.settings.appId first second)
            ((Agenda.ofClient one).run occurrences).1 ((Agenda.ofClient other).run occurrences).1 ∧
          ((Agenda.ofClient one).run occurrences).2.client.token =
            ((Agenda.ofClient other).run occurrences).2.client.token ∧
          ((Agenda.ofClient one).run occurrences).2.client.diagnostic =
            ((Agenda.ofClient other).run occurrences).2.client.diagnostic := by
  have hfails {ε α β γ : Type} {judged judged' : Except ε α} (hjudged : judged = judged')
      (made : α → β) (made' : α → γ) (reason : ε) :
      judged.map made = .error reason ↔ judged'.map made' = .error reason := by
    subst hjudged
    cases judged <;> simp [Except.map]
  have hmade {ε α β : Type} {judged : Except ε α} {made thing : β}
      (hmap : judged.map (fun _ => made) = .ok thing) : made = thing := by
    cases judged with
    | error reason => cases hmap
    | ok => exact Except.ok.inj hmap
  have hvalid := config.validate_withSecret hfirst hsecond
  have hsettings := config.settings.validate_withSecret hfirst hsecond
  refine ⟨⟨rfl, rfl, config.settings.metadata_withSecret hfirst hsecond⟩, ?_, ?_,
    fun _ _ => rfl, ?_, ?_⟩
  · intro fault
    rw [Session.create_eq, Session.create_eq]
    exact hfails hvalid _ _ fault
  · intro failure
    rw [Client.create_eq, Client.create_eq]
    exact hfails hsettings _ _ failure
  · intro one other hone hother occurrences
    rw [Session.create_eq] at hone hother
    obtain rfl := hmade hone
    obtain rfl := hmade hother
    -- both sessions are the one without a secret, with theirs put in
    exact Session.run_alike (.ofClient ⟨config.settings, none⟩) config first second occurrences
  · intro one other hone hother R occurrences
    rw [Client.create_eq] at hone hother
    obtain rfl := hmade hone
    obtain rfl := hmade hother
    exact (Agenda.ofClient ⟨config.settings, none⟩).run_alike first second occurrences

/-- The body of a request of a token. -/
def Effect.exchanged? : Effect → Option String
  | .sendRefresh request => request.body
  | _ => none

/-- A configuration whose secret is yet to be put in. -/
def openConfig : Config := .ofSettings ⟨"cli_1", "", "http://a", []⟩

/-- Two servers are created, and each tells its own secret when it asks for a token. -/
theorem secret_told_for_token :
    ∃ one other, Session.create (openConfig.withSecret "alpha") = .ok one ∧
      Session.create (openConfig.withSecret "beta") = .ok other ∧
      List.Forall₂ (AlikeButSecret .sendRefresh "cli_1" "alpha" "beta")
        (Session.run one [.refresh]).1 (Session.run other [.refresh]).1 ∧
      (Session.run one [.refresh]).1.filterMap Effect.exchanged? =
        ["\x7b\"app_id\":\"cli_1\",\"app_secret\":\"alpha\"\x7d"] ∧
      (Session.run other [.refresh]).1.filterMap Effect.exchanged? =
        ["\x7b\"app_id\":\"cli_1\",\"app_secret\":\"beta\"\x7d"] := by
  have hfirst : Text.trim "alpha".toList ≠ [] := by decide +kernel
  have hsecond : Text.trim "beta".toList ≠ [] := by decide +kernel
  have hone : Session.create (openConfig.withSecret "alpha") =
      .ok (.ofClient ⟨openConfig.settings.withSecret "alpha", none⟩) := by
    have hvalid : (openConfig.withSecret "alpha").validate = .ok () := by decide +kernel
    rw [Session.create_eq, hvalid]
    rfl
  have hother : Session.create (openConfig.withSecret "beta") =
      .ok (.ofClient ⟨openConfig.settings.withSecret "beta", none⟩) := by
    have hvalid : (openConfig.withSecret "beta").validate = .ok () := by decide +kernel
    rw [Session.create_eq, hvalid]
    rfl
  obtain ⟨-, -, -, -, hruns, -⟩ := secret_stays_in_token_request openConfig hfirst hsecond
  exact ⟨_, _, hone, hother, (hruns _ _ hone hother [.refresh]).1, by decide +kernel,
    by decide +kernel⟩

end ChatSteward.Server
