import ChatSteward.Http.Status
import ChatSteward.Http.Url

/-!
# Requests and what becomes of them

A request that is sent may meet no server, lose its connection, run out of time, or be
answered. The body of an answer may break off before its announced end.

## Main definitions

* `Method`, `Request` — a request to be sent
* `Response` — an answer that came back
* `Delivery` — what became of a request
* `Response.header?` — the text of a header
-/

namespace ChatSteward.Http

/-- What a request asks for: an answer alone, or an effect. -/
inductive Method where
  | get
  | post
deriving DecidableEq, Repr

/-- The name of a method. -/
def Method.name : Method → String
  | .get => "GET"
  | .post => "POST"

/-- A request: its address, the credentials it shows, and a body of JSON text. -/
structure Request where
  method : Method
  url : Url
  authorization : Option String
  body : Option String
deriving DecidableEq, Repr

/-- An answer; `complete` tells whether the body reached its announced end. -/
structure Response where
  status : Status
  headers : List (String × String)
  body : List UInt8
  complete : Bool
deriving DecidableEq, Repr

/-- What became of a request. -/
inductive Delivery where
  /-- No connection came about. -/
  | refused
  /-- The connection ended without an answer. -/
  | dropped
  /-- There was no answer in time. -/
  | timedOut
  | answered (response : Response)
deriving DecidableEq, Repr

/-- Whether a header can hold a character as text. -/
def isHeaderChar (c : Char) : Bool :=
  (0x20 ≤ c.toNat && c.toNat < 0x7F) || c == '\t'

/-- The text of the first header of a name; names differ by more than the case of ASCII
letters. None if the value has characters that are no text. -/
def Response.header? (response : Response) (name : String) : Option String :=
  let sought := name.toList.map Char.toLower
  match response.headers.find? fun header => header.1.toList.map Char.toLower = sought with
  | none => none
  | some (_, value) => if value.toList.all isHeaderChar then some value else none

/-- Whether a header of a request can hold a text: anything but controls, a tab being none. -/
def isHeaderText (text : String) : Bool :=
  text.toList.all fun c => c == '\t' || (0x20 ≤ c.toNat && c.toNat != 0x7F)

end ChatSteward.Http
