import ChatSteward.Json.Writer
import ChatSteward.Platform.Failure
import ChatSteward.Text.Blank
import ChatSteward.Text.Split

/-!
# Settings

The credentials of the application, where the platform is reached, and the masters: the users
who may run privileged commands. Without any masters everyone is one.

## Main definitions

* `Settings` — the settings
* `parseMasters` — the user ids of a list with commas
* `Settings.isMaster` — whether a user may run privileged commands
* `Settings.validate` — the settings, if they can be worked with
* `Settings.ofEnvironment` — the settings of environment variables
* `Settings.diagnostic`, `Settings.metadata` — descriptions that keep the secret
-/

namespace ChatSteward.Platform

/-- The credentials, the address of the platform without a slash at its end, and the masters. -/
structure Settings where
  appId : String
  appSecret : String
  apiBase : String
  masters : List String
deriving DecidableEq, Repr

/-- Where the platform is reached unless the settings say otherwise. -/
def defaultApiBase : String := "https://open.feishu.cn/open-apis"

/-- The user ids of a list with commas, trimmed, without the empty ones. -/
def parseMasters (text : String) : List String :=
  ((Text.splitAt ',' text.toList).map Text.trim).filterMap fun id =>
    if id.isEmpty then none else some (String.ofList id)

/-- An address without the slashes at its end. -/
def trimSlashes (text : String) : String :=
  String.ofList (text.toList.reverse.dropWhile (· = '/')).reverse

namespace Settings

/-- The settings of an application: the usual address, everyone a master. -/
def ofCredentials (appId appSecret : String) : Settings := ⟨appId, appSecret, defaultApiBase, []⟩

/-- The settings with the masters of a list with commas. -/
def withMasters (settings : Settings) (text : String) : Settings :=
  { settings with masters := parseMasters text }

/-- The settings with another address of the platform. -/
def withApiBase (settings : Settings) (apiBase : String) : Settings :=
  { settings with apiBase := trimSlashes apiBase }

/-- Whether a user may run privileged commands. -/
def isMaster (settings : Settings) (user : String) : Bool :=
  settings.masters.isEmpty || settings.masters.contains user

/-- Whether a text starts like a web address. -/
def isWebAddress (text : String) : Bool :=
  "http://".toList.isPrefixOf text.toList || "https://".toList.isPrefixOf text.toList

/-- What keeps the settings from being worked with, the first reason of several. -/
def validate (settings : Settings) : Except Failure Unit :=
  if (Text.trim settings.appId.toList).isEmpty then .error (.configuration "empty app id")
  else if (Text.trim settings.appSecret.toList).isEmpty then
    .error (.configuration "empty app secret")
  else if isWebAddress settings.apiBase then .ok ()
  else .error (.configuration ("API base must be an http(s) URL: " ++ settings.apiBase))

/-- The settings of environment variables, of which `lookup` gives those that are set. -/
def ofEnvironment (lookup : String → Option String) : Except Failure Settings := do
  let some appId := lookup "LARK_APP_ID" | .error (.configuration "LARK_APP_ID not set")
  let some appSecret := lookup "LARK_APP_SECRET"
    | .error (.configuration "LARK_APP_SECRET not set")
  let settings := ofCredentials appId appSecret
  let settings :=
    match lookup "LARK_MASTERS" with
    | some masters => settings.withMasters masters
    | none => settings
  match lookup "LARK_API_BASE" with
  | some apiBase => return settings.withApiBase apiBase
  | none => return settings

/-! ## Descriptions -/

/-- The diagnostic text, which does not show the secret. -/
def diagnostic (settings : Settings) : String :=
  "LarkConfig \x7b app_id: " ++ Text.quoted settings.appId ++
    ", app_secret: \"[REDACTED]\", api_base: " ++ Text.quoted settings.apiBase ++
    ", masters: " ++ Text.listed (settings.masters.map Text.quoted) ++ " \x7d"

/-- What may be told of the settings, to be written as JSON text. -/
def metadata (settings : Settings) : Json.Value :=
  .object
    [("app_id", .text settings.appId),
     ("has_app_secret", .boolean (!settings.appSecret.isEmpty)),
     ("api_base", .text settings.apiBase),
     ("masters", .ofNat settings.masters.length)]

end Settings

end ChatSteward.Platform
