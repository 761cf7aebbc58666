import ChatSteward.Http.Status
import ChatSteward.Json.Writer
import ChatSteward.Platform.Failure

/-!
# Faults of the server

Why the server does not do what it is asked to, and how it says so: by a status, a code word and
a message in a body of JSON text.

## Main definitions

* `Fault` — why a request is not served, or the server not started
* `Fault.message`, `Fault.word` — its text and its code word
* `Fault.status`, `Fault.body` — how it is answered
-/

namespace ChatSteward.Server

open Json (Value)
open Platform (Failure)

/-- Why a request is not served, or the server not started. -/
inductive Fault where
  /-- The settings of the server are invalid. -/
  | configuration (detail : String)
  /-- There is nothing at a path. -/
  | notFound (path : String)
  /-- The platform fails. -/
  | platform (failure : Failure)
deriving DecidableEq, Repr

namespace Fault

/-- The text of a fault. -/
def message : Fault → String
  | .configuration detail => "Configuration error: " ++ detail
  | .notFound path => "Not found: " ++ path
  | .platform failure => failure.message

/-- The code word of a fault. -/
def word : Fault → String
  | .configuration _ => "config_error"
  | .notFound _ => "not_found"
  | .platform _ => "lark_error"

/-- The status that answers a fault. -/
def status : Fault → Http.Status
  | .configuration _ => .internalServerError
  | .notFound _ => .notFound
  | .platform (.rateLimited _) => .tooManyRequests
  | .platform (.timeout _) => .gatewayTimeout
  | .platform _ => .badGateway

/-- The body that answers a fault. -/
def body (fault : Fault) : Value :=
  .object
    [("error", .object [("code", .text fault.word), ("message", .text fault.message)])]

end Fault

end ChatSteward.Server
