import ChatSteward.Json.Fault

/-!
# Failures

Why an operation of the platform fails, and the text that tells so. The platform rejects a
request with a code and a text of its own; three of the codes say that the credentials are
missing or stale.

## Main definitions

* `Failure` — why an operation fails
* `Failure.message` — the text of a failure
* `Rejection` — a code and a text from the platform
* `Rejection.failure` — a rejection as a failure
-/

namespace ChatSteward.Platform

/-- Why an operation fails. -/
inductive Failure where
  /-- The settings cannot be worked with. -/
  | configuration (detail : String)
  /-- The credentials are missing, stale or refused. -/
  | authentication (detail : String)
  /-- The platform refuses for another reason. -/
  | rejected (detail : String)
  /-- The requests came too fast; the number of seconds to wait. -/
  | rateLimited (seconds : Nat)
  /-- The platform was not reached. -/
  | network (detail : String)
  /-- The platform took too long. -/
  | timeout (detail : String)
  /-- A text is no JSON text of the expected type. -/
  | json (detail : String)
  /-- An answer lacks what it has to hold. -/
  | invalidPayload (detail : String)
  /-- The program is at fault. -/
  | internal (detail : String)
deriving DecidableEq, Repr

/-- The text of a failure. -/
def Failure.message : Failure → String
  | .configuration detail => "Configuration error: " ++ detail
  | .authentication detail => "Authentication error: " ++ detail
  | .rejected detail => "Lark API error: " ++ detail
  | .rateLimited seconds => "Rate limited: retry after " ++ Nat.repr seconds ++ " seconds"
  | .network detail => "Network error: " ++ detail
  | .timeout detail => "Operation timed out: " ++ detail
  | .json detail => "JSON error: " ++ detail
  | .invalidPayload detail => "Invalid payload: " ++ detail
  | .internal detail => "Internal error: " ++ detail

/-- A fault of JSON text as a failure. -/
def Failure.ofFault (fault : Json.Fault) : Failure := .json fault.message

/-- A code other than zero and a text, as the platform answers them. -/
structure Rejection where
  code : Int
  text : String
deriving DecidableEq, Repr

namespace Rejection

/-- The codes that say that the access token is missing or stale. -/
def tokenCodes : List Int := [99991661, 99991663, 99991668]

/-- Whether a rejection is about the access token. -/
def isAboutToken (rejection : Rejection) : Bool := tokenCodes.contains rejection.code

/-- The code and the text. -/
def detail (rejection : Rejection) : String :=
  toString rejection.code ++ ": " ++ rejection.text

/-- A rejection as a failure. -/
def failure (rejection : Rejection) : Failure :=
  if rejection.isAboutToken then .authentication rejection.detail
  else .rejected rejection.detail

end Rejection

end ChatSteward.Platform
