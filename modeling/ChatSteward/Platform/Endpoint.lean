import ChatSteward.Http.Message
import ChatSteward.Json.Writer
import ChatSteward.Platform.Operation

/-!
# Endpoints

What each operation sends: a method, a path, a query, and a body of JSON text. The listing of
chats comes in pages, of which each but the first is asked for by the token that the page before
it gave.

## Main definitions

* `Call` — what is sent, without credentials
* `Listing` — the chats listed so far, and the token of the next page
* `Operation.call` — what an operation sends
* `Operation.immediate?` — what an operation yields without sending anything
-/

namespace ChatSteward.Platform

open Json (Value)

/-- A request to the platform without credentials. -/
structure Call where
  method : Http.Method
  path : String
  query : List (String × String)
  body : Option Value

namespace Call

/-- A request that asks for something. -/
def get (path : String) (query : List (String × String)) : Call := ⟨.get, path, query, none⟩

/-- A request that has an effect. -/
def post (path : String) (members : List (String × Value)) : Call :=
  ⟨.post, path, [], some (.object members)⟩

end Call

/-- How far a listing of chats has come. The first page has no token. -/
structure Listing where
  chats : List ChatSummary
  token : String
deriving DecidableEq, Repr

/-- The listing before its first page. -/
def Listing.start : Listing := ⟨[], ""⟩

/-- How many chats a page of the listing holds at most. -/
def listPageSize : String := "200"

namespace Operation

/-- What an operation sends; `listing` is how far the listing of chats has come. -/
def call (listing : Listing) : Operation → Call
  | .sendText chat content =>
    .post "/message/v4/send/"
      [("chat_id", .text chat), ("msg_type", .text "text"),
       ("content", .object [("text", .text content)])]
  | .sendPost chat post =>
    .post "/message/v4/send/"
      [("chat_id", .text chat), ("msg_type", .text "post"),
       ("content", .object [("post", post.json)])]
  | .createChat name owner =>
    .post "/chat/v4/create/" [("name", .text name), ("open_ids", .ofTexts [owner])]
  | .addUsers chat ids =>
    .post "/chat/v4/chatter/add/" [("chat_id", .text chat), ("open_ids", .ofTexts ids)]
  | .removeUsers chat ids =>
    .post "/chat/v4/chatter/delete/" [("chat_id", .text chat), ("open_ids", .ofTexts ids)]
  | .destroyChat chat => .post "/chat/v4/disband" [("chat_id", .text chat)]
  | .chatInfo chat => .get "/chat/v4/info" [("chat_id", chat)]
  | .listChats =>
    .get "/chat/v4/list"
      (("page_size", listPageSize) ::
        if listing.token.isEmpty then [] else [("page_token", listing.token)])
  | .users ids => .get "/contact/v1/user/batch_get" (ids.map fun id => ("open_ids", id))

/-- What an operation yields without sending anything: there are no profiles of no users. -/
def immediate? : (operation : Operation) → Option operation.Outcome
  | .users [] => some []
  | _ => none

end Operation

end ChatSteward.Platform
