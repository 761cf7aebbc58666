import ChatSteward.Net.Address
import ChatSteward.Platform.Settings
import ChatSteward.Server.Fault
import ChatSteward.Server.Refresh

/-!
# The configuration of the server

Where the server listens, the settings of the platform, when tokens are refreshed, and how much
is logged. All but the refresh is up to the options with which the server is started.

## Main definitions

* `Config` — the configuration
* `Config.socketAddress` — the address to listen on, if it is one
* `Config.validate` — the configuration, if it can be worked with
* `Config.diagnostic` — the configuration as a diagnostic text shows it
* `LogLevel.ofWord` — the level of a word for how much is logged
* `Options`, `Options.config` — the options of the server, and the configuration they describe
-/

namespace ChatSteward.Server

open Platform (Settings)

/-- The configuration of the server. -/
structure Config where
  listen : String
  settings : Settings
  schedule : Schedule
deriving DecidableEq, Repr

/-- Where the server listens unless it is told otherwise. -/
def defaultListen : String := "127.0.0.1:32123"

namespace Config

/-- The usual configuration for some settings. -/
def ofSettings (settings : Settings) : Config := ⟨defaultListen, settings, .usual⟩

/-- The address to listen on. -/
def socketAddress (config : Config) : Except Fault Net.SocketAddress :=
  match Net.SocketAddress.parse? config.listen with
  | some address => .ok address
  | none =>
    .error (.configuration
      ("invalid listen address " ++ config.listen ++ ": invalid socket address syntax"))

/-- What keeps the configuration from being worked with: the address first. -/
def validate (config : Config) : Except Fault Unit := do
  let _ ← config.socketAddress
  config.settings.validate.mapError .platform

/-- The diagnostic text of the configuration. -/
def diagnostic (config : Config) : String :=
  "ServerConfig \x7b listen_addr: " ++ Text.quoted config.listen ++
    ", lark: " ++ config.settings.diagnostic ++ ", token: " ++ config.schedule.diagnostic ++ " \x7d"

end Config

/-! ## Logging -/

/-- How much is logged. -/
inductive LogLevel where
  | trace
  | debug
  | info
  | warn
  | error
deriving DecidableEq, Repr

/-- The name of a level. -/
def LogLevel.name : LogLevel → String
  | .trace => "trace"
  | .debug => "debug"
  | .info => "info"
  | .warn => "warn"
  | .error => "error"

/-- The level of a word in any case; what is no level is taken as `info`. -/
def LogLevel.ofWord (word : String) : LogLevel :=
  let lower := String.ofList ((Text.trim word.toList).map Char.toLower)
  if lower = "trace" then .trace
  else if lower = "debug" then .debug
  else if lower = "warning" ∨ lower = "warn" then .warn
  else if lower = "error" ∨ lower = "critical" then .error
  else .info

/-! ## Options -/

/-- The options of the server. -/
structure Options where
  appId : String
  appSecret : String
  listen : String := defaultListen
  verbosity : String := "info"
  masters : String := ""
  apiBase : Option String := none
deriving DecidableEq, Repr

namespace Options

/-- The settings of the platform that the options describe. -/
def settings (options : Options) : Settings :=
  let settings :=
    (Settings.ofCredentials options.appId options.appSecret).withMasters options.masters
  match options.apiBase with
  | some apiBase => settings.withApiBase apiBase
  | none => settings

/-- The configuration that the options describe. -/
def config (options : Options) : Config :=
  { Config.ofSettings options.settings with listen := options.listen }

/-- How much is logged. -/
def logLevel (options : Options) : LogLevel := .ofWord options.verbosity

end Options

end ChatSteward.Server
