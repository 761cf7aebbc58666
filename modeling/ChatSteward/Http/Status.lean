/-!
# Status codes

The number with which an answer sums up its outcome, and the phrase that goes with it. The
phrases are those of the registry of status codes.

## Main definitions

* `Status` — a status code
* `Status.reason?` — its phrase, if it is registered
* `Status.isSuccess` — whether the request was understood and accepted
* `Status.text` — the code and its phrase
-/

namespace ChatSteward.Http

/-- A status code. -/
structure Status where
  code : Nat
deriving DecidableEq, Repr

namespace Status

/-- The request succeeded and the answer has content. -/
def ok : Status := ⟨200⟩

/-- The request succeeded and there is nothing to say. -/
def noContent : Status := ⟨204⟩

/-- The request cannot be understood. -/
def badRequest : Status := ⟨400⟩

/-- The request lacks credentials. -/
def unauthorized : Status := ⟨401⟩

/-- The request is not permitted. -/
def forbidden : Status := ⟨403⟩

/-- There is nothing at the path, or not for the method. -/
def notFound : Status := ⟨404⟩

/-- The requests came too fast. -/
def tooManyRequests : Status := ⟨429⟩

/-- The server is at fault. -/
def internalServerError : Status := ⟨500⟩

/-- Another server on the way is at fault. -/
def badGateway : Status := ⟨502⟩

/-- Another server on the way took too long. -/
def gatewayTimeout : Status := ⟨504⟩

/-- Whether a request was understood and accepted. -/
def isSuccess (status : Status) : Bool :=
  200 ≤ status.code && status.code < 300

/-- The registered phrases. -/
def reasons : List (Nat × String) :=
  [(100, "Continue"), (101, "Switching Protocols"), (102, "Processing"), (103, "Early Hints"),
   (200, "OK"), (201, "Created"), (202, "Accepted"), (203, "Non Authoritative Information"),
   (204, "No Content"), (205, "Reset Content"), (206, "Partial Content"), (207, "Multi-Status"),
   (208, "Already Reported"), (226, "IM Used"), (300, "Multiple Choices"),
   (301, "Moved Permanently"), (302, "Found"), (303, "See Other"), (304, "Not Modified"),
   (305, "Use Proxy"), (307, "Temporary Redirect"), (308, "Permanent Redirect"),
   (400, "Bad Request"), (401, "Unauthorized"), (402, "Payment Required"), (403, "Forbidden"),
   (404, "Not Found"), (405, "Method Not Allowed"), (406, "Not Acceptable"),
   (407, "Proxy Authentication Required"), (408, "Request Timeout"), (409, "Conflict"),
   (410, "Gone"), (411, "Length Required"), (412, "Precondition Failed"),
   (413, "Payload Too Large"), (414, "URI Too Long"), (415, "Unsupported Media Type"),
   (416, "Range Not Satisfiable"), (417, "Expectation Failed"), (418, "I'm a teapot"),
   (421, "Misdirected Request"), (422, "Unprocessable Entity"), (423, "Locked"),
   (424, "Failed Dependency"), (425, "Too Early"), (426, "Upgrade Required"),
   (428, "Precondition Required"), (429, "Too Many Requests"),
   (431, "Request Header Fields Too Large"), (451, "Unavailable For Legal Reasons"),
   (500, "Internal Server Error"), (501, "Not Implemented"), (502, "Bad Gateway"),
   (503, "Service Unavailable"), (504, "Gateway Timeout"), (505, "HTTP Version Not Supported"),
   (506, "Variant Also Negotiates"), (507, "Insufficient Storage"), (508, "Loop Detected"),
   (510, "Not Extended"), (511, "Network Authentication Required")]

/-- The phrase of a registered code. -/
def reason? (status : Status) : Option String :=
  reasons.lookup status.code

/-- The code and its phrase. -/
def text (status : Status) : String :=
  Nat.repr status.code ++ " " ++ status.reason?.getD "<unknown status code>"

end Status

end ChatSteward.Http
