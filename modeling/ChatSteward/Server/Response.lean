import ChatSteward.Http.Status
import ChatSteward.Server.Fault

/-!
# Responses

What the server answers: a status, and JSON text or nothing.

## Main definitions

* `Response` — a status and a body
* `Response.ofJson`, `Response.noContent`, `Response.ofFault` — the responses there are
* `Response.withoutBody` — the response to a request that wants no body
-/

namespace ChatSteward.Server

/-- A status, what kind of body there is, and the body. -/
structure Response where
  status : Http.Status
  contentType : Option String
  body : String
deriving DecidableEq, Repr

namespace Response

/-- A response with a body of JSON text. -/
def ofJson (status : Http.Status) (value : Json.Value) : Response :=
  ⟨status, some "application/json", value.written⟩

/-- The response that there is nothing to say. -/
def noContent : Response := ⟨.noContent, none, ""⟩

/-- The response to a request that is not served. -/
def ofFault (fault : Fault) : Response := ofJson fault.status fault.body

/-- The response with its body left out. -/
def withoutBody (response : Response) : Response := { response with body := "" }

end Response

end ChatSteward.Server
