import ChatSteward.Platform.Client

/-!
# Jobs

A job is a consultation at work: it has its result, or it has sent a request and waits for what
becomes of it. What becomes of a request either gives the answer to the operation that sent it or
leads to another request of the same operation. An operation that fails without sending anything
is answered at once.

A consultation ends whatever it is answered; a job may go on as long as the platform leads it
from page to page.

## Main definitions

* `Job` — a result, or a request that is under way
* `Job.start` — a consultation up to its first request
* `Job.resume` — a job after a delivery
-/

namespace ChatSteward.Platform

/-- A consultation at work. -/
inductive Job (R : Type) where
  | finished (result : R)
  /-- The request of an operation is under way; the listing tells how far a listing of chats
  has come. -/
  | waiting (request : Http.Request) (operation : Operation) (listing : Listing)
      (next : Answer operation → Consultation R)

namespace Job

variable {R : Type}

/-- A consultation up to its first request. -/
def start (client : Client) : Consultation R → Job R
  | .done result => .finished result
  | .ask operation next =>
    match operation.immediate? with
    | some outcome => start client (next (.ok outcome))
    | none =>
      -- without a request there is nothing to wait for, and the failure is the answer
      match client.request operation .start with
      | .error failure => start client (next (.error failure))
      | .ok request => .waiting request operation .start next

/-- A job after a delivery. -/
def resume (client : Client) (delivery : Http.Delivery) : Job R → Job R
  | .finished result => .finished result
  | .waiting request operation listing next =>
    match (readBody request.url delivery).bind (operation.receive listing) with
    | .error failure => start client (next (.error failure))
    | .ok (.finished outcome) => start client (next (.ok outcome))
    | .ok (.more listing) =>
      -- the client may have another token by now than when the page before was asked for
      match client.request operation listing with
      | .error failure => start client (next (.error failure))
      | .ok request => .waiting request operation listing next

/-- The request that is under way. -/
def pending? : Job R → Option Http.Request
  | .finished _ => none
  | .waiting request .. => some request

/-- The result, if there is one. -/
def result? : Job R → Option R
  | .finished result => some result
  | .waiting .. => none

@[simp] theorem resume_finished (client : Client) (delivery : Http.Delivery) (result : R) :
    resume client delivery (.finished result) = .finished result := rfl

end Job

end ChatSteward.Platform
