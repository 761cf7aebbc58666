import ChatSteward.Platform.Agenda

/-!
# Boards

A board is an agenda at a finer grain. The sending of a request is a step of its own: between an
answer and the next request, or before the first, anything may happen elsewhere, the token being
refreshed among other things. A request shows the token that is held when it is sent.

## Main definitions

* `Task` — a consultation at work, whose next request may be yet to be sent
* `Task.start`, `Task.send?`, `Task.receive?` — the steps of a task
* `Board`, `Board.ofClient` — a client with its tasks
* `Board.Move`, `Board.step`, `Board.run` — what may happen next, and what is done then
-/

namespace ChatSteward.Platform

/-- A consultation at work, step by step. -/
inductive Task (R : Type) where
  | finished (result : R)
  /-- The request of an operation is yet to be sent; the listing tells how far a listing of chats
  has come. -/
  | ready (operation : Operation) (listing : Listing) (next : Answer operation → Consultation R)
  /-- The request of an operation is under way. -/
  | waiting (request : Http.Request) (operation : Operation) (listing : Listing)
      (next : Answer operation → Consultation R)

namespace Task

variable {R : Type}

/-- A consultation up to where its first request is to be sent. -/
def start : Consultation R → Task R
  | .done result => .finished result
  | .ask operation next =>
    match operation.immediate? with
    | some outcome => start (next (.ok outcome))
    | none => .ready operation .start next

/-- A task after it has sent its request, if there is one to be sent. A request that cannot be
built is a failure of its operation. -/
def send? (client : Client) : Task R → Option (Task R)
  | .ready operation listing next =>
    match client.request operation listing with
    | .error failure => some (start (next (.error failure)))
    | .ok request => some (.waiting request operation listing next)
  | _ => none

/-- A task after something has become of its request, if one is under way. -/
def receive? (delivery : Http.Delivery) : Task R → Option (Task R)
  | .waiting request operation listing next =>
    match (readBody request.url delivery).bind (operation.receive listing) with
    | .error failure => some (start (next (.error failure)))
    | .ok (.finished outcome) => some (start (next (.ok outcome)))
    | .ok (.more listing) => some (.ready operation listing next)
  | _ => none

/-- The request that is under way. -/
def pending? : Task R → Option Http.Request
  | .waiting request .. => some request
  | _ => none

/-- Whether a request is yet to be sent. -/
def isReady : Task R → Bool
  | .ready .. => true
  | _ => false

end Task

/-- A client, the request of a token that is under way, and the tasks in the order in which they
were begun. -/
structure Board (R : Type) where
  client : Client
  refresh : Option Http.Request
  tasks : List (Task R)

namespace Board

variable {R : Type}

/-- What may happen next. -/
inductive Move (R : Type) where
  /-- A consultation begins and is the next task. -/
  | beginTask (consultation : Consultation R)
  /-- A task sends its request. -/
  | send (place : Nat)
  /-- Something becomes of the request of a task. -/
  | delivery (place : Nat) (delivery : Http.Delivery)
  /-- The token is to be refreshed. -/
  | refresh
  /-- Something becomes of the request of a token. -/
  | refreshDelivery (delivery : Http.Delivery)

/-- A client without tasks. -/
def ofClient (client : Client) : Board R := ⟨client, none, []⟩

/-- What has been done when a task has come to where it is. -/
def effectsOf (place : Nat) : Task R → List (Agenda.Effect R)
  | .finished result => [.finish place result]
  | .ready .. => []
  | .waiting request .. => [.send place request]

/-- A board on which the task at a place takes a step, if it does. -/
def advance (board : Board R) (place : Nat) : Option (Task R) → List (Agenda.Effect R) × Board R
  | none => ([], board)
  | some task => (effectsOf place task, { board with tasks := board.tasks.set place task })

/-- A board on which the token is refreshed as in an agenda. -/
def attend (board : Board R) (attended : List (Agenda.Effect R) × Agenda R) :
    List (Agenda.Effect R) × Board R :=
  (attended.1, { board with client := attended.2.client, refresh := attended.2.refresh })

/-- A board after a move, and what is done. -/
def step (board : Board R) : Move R → List (Agenda.Effect R) × Board R
  | .beginTask consultation =>
    let task := Task.start consultation
    (effectsOf board.tasks.length task, { board with tasks := board.tasks ++ [task] })
  | .send place => board.advance place (board.tasks[place]?.bind (Task.send? board.client))
  | .delivery place delivery =>
    board.advance place (board.tasks[place]?.bind (Task.receive? delivery))
  | .refresh => board.attend (Agenda.beginRefresh ⟨board.client, board.refresh, []⟩)
  | .refreshDelivery delivery =>
    board.attend (Agenda.endRefresh ⟨board.client, board.refresh, []⟩ delivery)

/-- A board after several moves, and what is done on each. -/
def run (board : Board R) : List (Move R) → List (Agenda.Effect R) × Board R
  | [] => ([], board)
  | move :: rest =>
    let (effects, board) := board.step move
    let (more, board) := run board rest
    (effects ++ more, board)

/-- The consultations that begin, in order. -/
def begun (moves : List (Move R)) : List (Consultation R) :=
  moves.filterMap fun
    | .beginTask consultation => some consultation
    | _ => none

/-- The requests of the task at a place, in order. -/
def requestsAt (place : Nat) (effects : List (Agenda.Effect R)) : List Http.Request :=
  effects.filterMap fun
    | .send target request => if target = place then some request else none
    | _ => none

/-- What a move brings for the request of the task at a place, if one is under way. -/
def answer? (board : Board R) (place : Nat) : Move R → Option Http.Delivery
  | .delivery target delivery =>
    if target = place ∧ (board.tasks[place]?.bind Task.pending?).isSome then some delivery
    else none
  | _ => none

/-- What several moves bring for the requests of the task at a place, in order. -/
def answers (board : Board R) (place : Nat) : List (Move R) → List Http.Delivery
  | [] => []
  | move :: rest =>
    (board.answer? place move).toList ++ answers (board.step move).2 place rest

end Board

end ChatSteward.Platform
