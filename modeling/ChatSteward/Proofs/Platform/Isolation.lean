import ChatSteward.Platform.Board
import ChatSteward.Proofs.Platform.Authorization

/-!
# Isolation

Whatever else happens on a board, a task sends what its consultation sends when it is alone and is
given the same answers, as long as a token is held that can be shown. What differs is which token
is shown, and when; a request that is yet to be sent has been sent by then when the task is alone.

The invariant of a run compares the task with a job that is alone: once the task has sent what it
has to send, with the client of the job, it has become this job, credentials aside. Only the moves
for the task itself change either of them. Its answers are the turns of the job, and a request that
is sent was owed before.

## Main definitions

* `Request.bare`, `Job.bare` — requests without the credentials that they show
* `Client.HoldsToken` — a token that can be shown is held
* `Task.settle` — the job that a task becomes once it has sent what it has to send
* `Task.owed` — the request that is yet to be sent
* `Board.HoldsThroughout` — a token that can be shown is held all the time
* `Board.sentAt` — what is sent at a place, credentials aside

## Main results

* `Client.request_bare_eq` — which token is held makes no difference but to the credentials
* `Task.settle_send`, `Task.settle_receive` — how the steps of a task appear in its job
* `Board.step_of_task` — a task changes only by its own moves
* `Board.holdsThroughout_of_grants` — when a token that can be shown is held all the time
* `Board.requestsAt_of_begun` — a task sends what its consultation sends alone
-/

namespace ChatSteward

/-- A request without the credentials that it shows. -/
def Http.Request.bare (request : Request) : Request := { request with authorization := none }

namespace Platform

/-! ## Requests without credentials -/

/-- Whether a client holds a token that a header can show. -/
def Client.HoldsToken (client : Client) : Prop :=
  ∃ token, client.token = some token ∧ Http.isHeaderText ("Bearer " ++ token) = true

/-- Credentials aside, a request under a token that can be shown is one without any. -/
theorem Client.request_bare {client : Client} (hheld : client.HoldsToken) (operation : Operation)
    (listing : Listing) :
    (client.request operation listing).map Http.Request.bare =
      client.build none (operation.call listing) := by
  obtain ⟨token, htoken, htext⟩ := hheld
  simp only [request, htoken, build, Option.all_some, Option.all_none, htext, not_true_eq_false,
    if_false]
  cases Http.Url.parse? (client.settings.apiBase ++ (operation.call listing).path) with
  | none => rfl
  | some base =>
    by_cases hsendable : (base.withQuery (operation.call listing).query).isRequestable = true
    · simp only [hsendable, not_true_eq_false, if_false, Except.map, Http.Request.bare]
    · simp only [if_pos hsendable, Except.map]

/-- Which token is held makes no difference to a request but to its credentials. -/
theorem Client.request_bare_eq {client other : Client} (hheld : client.HoldsToken)
    (hother : other.HoldsToken) (hsettings : client.settings = other.settings)
    (operation : Operation) (listing : Listing) :
    (client.request operation listing).map Http.Request.bare =
      (other.request operation listing).map Http.Request.bare := by
  rw [request_bare hheld, request_bare hother, build, build, hsettings]

namespace Job

variable {R : Type}

/-- A job without the credentials of the request that it has under way. -/
def bare : Job R → Job R
  | .finished result => .finished result
  | .waiting request operation listing next => .waiting request.bare operation listing next

/-- What becomes of a request does not depend on the credentials that it showed. -/
@[simp] theorem resume_bare (client : Client) (delivery : Http.Delivery) (job : Job R) :
    job.bare.resume client delivery = job.resume client delivery := by
  cases job <;> rfl

theorem sending?_bare (job : Job R) :
    job.sending?.toList.map (·.request.bare) = job.bare.pending?.toList := by
  cases job <;> rfl

end Job

/-! ## Tasks -/

namespace Task

variable {R : Type}

/-- The job that a task becomes once it has sent what it has to send. -/
def settle (client : Client) : Task R → Job R
  | .finished result => .finished result
  | .ready operation listing next =>
    match client.request operation listing with
    | .error failure => Job.start client (next (.error failure))
    | .ok request => .waiting request operation listing next
  | .waiting request operation listing next => .waiting request operation listing next

/-- What a task is yet to send before it waits for anything, credentials aside. -/
def owed (client : Client) (task : Task R) : List Http.Request :=
  if task.isReady then (task.settle client).bare.pending?.toList else []

/-- A task starts as the job of its consultation does. -/
theorem settle_start (client : Client) (consultation : Consultation R) :
    (start consultation).settle client = Job.start client consultation := by
  induction consultation with
  | done result => rfl
  | ask operation next ih =>
    rw [start, Job.start]
    cases operation.immediate? with
    | some outcome => exact ih (.ok outcome)
    | none => rfl

/-- A task that starts has not sent anything yet. -/
theorem pending?_start (consultation : Consultation R) : (start consultation).pending? = none := by
  induction consultation with
  | done result => rfl
  | ask operation next ih =>
    rw [start]
    cases operation.immediate? with
    | some outcome => exact ih (.ok outcome)
    | none => rfl

/-- What a task has under way and what it is yet to send is what its job has under way. -/
theorem pending_append_owed (client : Client) (task : Task R) :
    task.pending?.toList.map Http.Request.bare ++ task.owed client =
      (task.settle client).bare.pending?.toList := by
  cases task <;> rfl

/-- The sending of a request settles nothing but the credentials. -/
theorem settle_send {sender client : Client} (hsender : sender.HoldsToken)
    (hclient : client.HoldsToken) (hsettings : sender.settings = client.settings)
    {task after : Task R} (hsend : task.send? sender = some after) :
    (after.settle client).bare = (task.settle client).bare := by
  cases task with
  | finished | waiting => cases hsend
  | ready operation listing next =>
    have hsame := Client.request_bare_eq hsender hclient hsettings operation listing
    simp only [send?] at hsend
    -- either both clients can build the request, or neither can, for the same reason
    cases hbuilt : sender.request operation listing with
    | error failure =>
      rw [hbuilt] at hsend hsame
      obtain rfl := Option.some.inj hsend
      cases hown : client.request operation listing with
      | error reason =>
        rw [hown] at hsame
        obtain rfl := Except.error.inj hsame
        rw [settle_start]
        simp only [settle, hown]
      | ok request =>
        rw [hown] at hsame
        cases hsame
    | ok request =>
      rw [hbuilt] at hsend hsame
      obtain rfl := Option.some.inj hsend
      cases hown : client.request operation listing with
      | error reason =>
        rw [hown] at hsame
        cases hsame
      | ok own =>
        rw [hown] at hsame
        simp only [settle, hown, Job.bare, Except.ok.inj hsame]

/-- A task that takes an answer becomes what its job becomes, and has yet to send what follows. -/
theorem settle_receive (client : Client) {delivery : Http.Delivery} {task after : Task R}
    (hreceive : task.receive? delivery = some after) :
    after.settle client = (task.settle client).resume client delivery ∧ after.pending? = none := by
  cases task with
  | finished | ready => cases hreceive
  | waiting request operation listing next =>
    simp only [receive?] at hreceive
    simp only [settle, Job.resume]
    cases hread : (readBody request.url delivery).bind (operation.receive listing) with
    | error failure =>
      rw [hread] at hreceive
      obtain rfl := Option.some.inj hreceive
      exact ⟨settle_start client _, pending?_start _⟩
    | ok progress =>
      rw [hread] at hreceive
      cases progress with
      | finished outcome =>
        obtain rfl := Option.some.inj hreceive
        exact ⟨settle_start client _, pending?_start _⟩
      | more listing' =>
        obtain rfl := Option.some.inj hreceive
        exact ⟨rfl, rfl⟩

theorem owed_of_send {sender client : Client} {task after : Task R}
    (hsend : task.send? sender = some after) :
    task.owed client = (task.settle client).bare.pending?.toList := by
  cases task with
  | finished | waiting => cases hsend
  | ready => rfl

theorem owed_of_receive (client : Client) {delivery : Http.Delivery} {task after : Task R}
    (hreceive : task.receive? delivery = some after) : task.owed client = [] := by
  cases task with
  | finished | ready => cases hreceive
  | waiting => rfl

theorem pending?_of_receive {delivery : Http.Delivery} {task after : Task R}
    (hreceive : task.receive? delivery = some after) : task.pending?.isSome := by
  cases task with
  | finished | ready => cases hreceive
  | waiting => rfl

/-- A task takes an answer if it has a request under way. -/
theorem receive?_of_pending {task : Task R} (hwaits : task.pending?.isSome)
    (delivery : Http.Delivery) : ∃ after, task.receive? delivery = some after := by
  cases task with
  | finished | ready => cases hwaits
  | waiting request operation listing next =>
    rw [receive?]
    split <;> exact ⟨_, rfl⟩

end Task

/-! ## Boards -/

namespace Board

variable {R : Type}

/-- No move changes the settings. -/
@[simp] theorem step_settings (board : Board R) (move : Move R) :
    (board.step move).2.client.settings = board.client.settings := by
  have hadvance (place : Nat) (moved : Option (Task R)) :
      (board.advance place moved).2.client.settings = board.client.settings := by
    cases moved <;> rfl
  cases move with
  | beginTask consultation => rfl
  | send place => exact hadvance _ _
  | delivery place delivery => exact hadvance _ _
  | refresh => exact Agenda.step_settings ⟨board.client, board.refresh, []⟩ .refresh
  | refreshDelivery delivery =>
    exact Agenda.step_settings ⟨board.client, board.refresh, []⟩ (.refreshDelivery delivery)

@[simp] theorem requestsAt_append (place : Nat) (first second : List (Agenda.Effect R)) :
    requestsAt place (first ++ second) = requestsAt place first ++ requestsAt place second :=
  List.filterMap_append

@[simp] theorem requestsAt_effectsOf (place : Nat) (task : Task R) :
    requestsAt place (effectsOf place task) = task.pending?.toList := by
  cases task <;> simp [requestsAt, effectsOf, Task.pending?]

theorem requestsAt_effectsOf_of_ne {place other : Nat} (hne : other ≠ place) (task : Task R) :
    requestsAt place (effectsOf other task) = [] := by
  cases task <;> simp [requestsAt, effectsOf, hne]

/-- Tasks do nothing when a refresh begins or ends. -/
theorem step_of_refresh (board : Board R) {move : Move R}
    (hrefresh : move = .refresh ∨ ∃ delivery, move = .refreshDelivery delivery) :
    (board.step move).2.tasks = board.tasks ∧
      ∀ place, requestsAt place (board.step move).1 = [] := by
  -- the refresh is that of an agenda without jobs
  rcases hrefresh with rfl | ⟨delivery, rfl⟩
  · refine ⟨rfl, fun place => ?_⟩
    rcases Agenda.step_refresh_cases (⟨board.client, board.refresh, []⟩ : Agenda R) with
      hstep | ⟨failure, hstep⟩ | ⟨request, -, hstep⟩
    all_goals
      rw [Agenda.step] at hstep
      rw [step, attend, hstep]
      rfl
  · refine ⟨rfl, fun place => ?_⟩
    rcases Agenda.step_refreshDelivery_cases (⟨board.client, board.refresh, []⟩ : Agenda R)
      delivery with hstep | ⟨client, result, hstep⟩
    all_goals
      rw [Agenda.step] at hstep
      rw [step, attend, hstep]
      rfl

/-- What is done at other places does not touch a task. -/
theorem advance_of_ne {board : Board R} {place other : Nat} (hne : other ≠ place)
    (moved : Option (Task R)) :
    (board.advance other moved).2.tasks[place]? = board.tasks[place]? ∧
      requestsAt place (board.advance other moved).1 = [] := by
  cases moved with
  | none => exact ⟨rfl, rfl⟩
  | some task => exact ⟨List.getElem?_set_ne hne, requestsAt_effectsOf_of_ne hne task⟩

/-- A task that takes a step is where the step leads, and has sent what it has under way then. -/
theorem advance_of_task {board : Board R} {place : Nat} {task : Task R}
    (htask : board.tasks[place]? = some task) (moved : Option (Task R)) :
    (board.advance place moved).2.tasks[place]? = some (moved.getD task) ∧
      requestsAt place (board.advance place moved).1 =
        (moved.bind Task.pending?).toList := by
  obtain ⟨hlt, -⟩ := List.getElem?_eq_some_iff.mp htask
  cases moved with
  | none => exact ⟨htask, rfl⟩
  | some after => exact ⟨List.getElem?_set_self hlt, requestsAt_effectsOf place after⟩

/-- A move leaves a task alone, has it send its request, or brings it an answer. -/
theorem step_of_task {board : Board R} {place : Nat} {task : Task R}
    (htask : board.tasks[place]? = some task) (move : Move R) :
    ∃ after, (board.step move).2.tasks[place]? = some after ∧
      ((after = task ∧ board.answer? place move = none ∧
          requestsAt place (board.step move).1 = []) ∨
        (task.send? board.client = some after ∧ board.answer? place move = none ∧
          requestsAt place (board.step move).1 = after.pending?.toList) ∨
        ∃ delivery, task.receive? delivery = some after ∧
          board.answer? place move = some delivery ∧
          requestsAt place (board.step move).1 = []) := by
  obtain ⟨hlt, -⟩ := List.getElem?_eq_some_iff.mp htask
  cases move with
  | beginTask consultation =>
    -- the new task is the last one, and so none of those that are there
    refine ⟨task, (List.getElem?_append_left hlt).trans htask, .inl ⟨rfl, rfl, ?_⟩⟩
    exact requestsAt_effectsOf_of_ne (Nat.ne_of_gt hlt) _
  | send target =>
    by_cases hplace : target = place
    · subst hplace
      have hstep : board.step (.send target) =
          board.advance target (task.send? board.client) := by
        rw [step, htask, Option.bind_some]
      obtain ⟨hafter, hsent⟩ := advance_of_task htask (task.send? board.client)
      rw [hstep]
      cases hsend : task.send? board.client with
      | none =>
        rw [hsend] at hafter hsent
        exact ⟨task, hafter, .inl ⟨rfl, rfl, hsent⟩⟩
      | some after =>
        rw [hsend] at hafter hsent
        exact ⟨after, hafter, .inr (.inl ⟨rfl, rfl, hsent⟩)⟩
    · obtain ⟨htasks, hnothing⟩ :=
        board.advance_of_ne hplace (board.tasks[target]?.bind (Task.send? board.client))
      exact ⟨task, htasks.trans htask, .inl ⟨rfl, rfl, hnothing⟩⟩
  | delivery target delivery =>
    by_cases hplace : target = place
    · subst hplace
      have hstep : board.step (.delivery target delivery) =
          board.advance target (task.receive? delivery) := by
        rw [step, htask, Option.bind_some]
      obtain ⟨hafter, hsent⟩ := advance_of_task htask (task.receive? delivery)
      rw [hstep]
      cases hreceive : task.receive? delivery with
      | none =>
        rw [hreceive] at hafter hsent
        have hidle : ¬ task.pending?.isSome := fun hwaits => by
          obtain ⟨after, htaken⟩ := Task.receive?_of_pending hwaits delivery
          rw [hreceive] at htaken
          cases htaken
        exact ⟨task, hafter, .inl ⟨rfl, by simp [answer?, htask, hidle], hsent⟩⟩
      | some after =>
        obtain ⟨-, hpending⟩ := Task.settle_receive board.client hreceive
        have hwaits := Task.pending?_of_receive hreceive
        rw [hreceive, Option.bind_some, hpending] at hsent
        rw [hreceive] at hafter
        refine ⟨after, hafter, .inr (.inr ⟨delivery, hreceive, ?_, hsent⟩)⟩
        simp [answer?, htask, hwaits]
    · obtain ⟨htasks, hnothing⟩ :=
        board.advance_of_ne hplace (board.tasks[target]?.bind (Task.receive? delivery))
      refine ⟨task, htasks.trans htask, .inl ⟨rfl, ?_, hnothing⟩⟩
      simp [answer?, hplace]
  | refresh =>
    obtain ⟨htasks, hnothing⟩ := board.step_of_refresh (.inl rfl)
    exact ⟨task, htasks ▸ htask, .inl ⟨rfl, rfl, hnothing place⟩⟩
  | refreshDelivery delivery =>
    obtain ⟨htasks, hnothing⟩ := board.step_of_refresh (.inr ⟨delivery, rfl⟩)
    exact ⟨task, htasks ▸ htask, .inl ⟨rfl, rfl, hnothing place⟩⟩

/-! ## Runs -/

/-- Whether a token that can be shown is held before each of some moves and after the last. -/
def HoldsThroughout (board : Board R) (moves : List (Move R)) : Prop :=
  ∀ before, before <+: moves → (board.run before).2.client.HoldsToken

theorem HoldsThroughout.begin {board : Board R} {moves : List (Move R)}
    (hheld : board.HoldsThroughout moves) : board.client.HoldsToken :=
  hheld [] List.nil_prefix

theorem HoldsThroughout.step {board : Board R} {move : Move R} {rest : List (Move R)}
    (hheld : board.HoldsThroughout (move :: rest)) :
    (board.step move).2.HoldsThroughout rest :=
  fun before hbefore => hheld (move :: before) (List.cons_prefix_cons.mpr ⟨rfl, hbefore⟩)

/-- A move leaves the client as it is, or it brings an answer that grants a token. -/
theorem step_client_cases (board : Board R) (move : Move R) :
    (∃ delivery token expire, move = .refreshDelivery delivery ∧ Grants delivery token expire ∧
        (board.step move).2.client = ⟨board.client.settings, some token⟩) ∨
      (board.step move).2.client = board.client := by
  have hadvance (place : Nat) (moved : Option (Task R)) :
      (board.advance place moved).2.client = board.client := by
    cases moved <;> rfl
  -- only the moves of a refresh are those of an agenda
  have hagenda := Agenda.step_client_cases (⟨board.client, board.refresh, []⟩ : Agenda R)
  cases move with
  | beginTask consultation => exact .inr rfl
  | send place => exact .inr (hadvance _ _)
  | delivery place delivery => exact .inr (hadvance _ _)
  | refresh =>
    rcases hagenda .refresh with ⟨_, _, _, heq, -, -, -⟩ | ⟨-, hclient⟩
    · cases heq
    · exact .inr hclient
  | refreshDelivery delivery =>
    rcases hagenda (.refreshDelivery delivery) with
      ⟨_, token, expire, heq, hgranted, -, hclient⟩ | ⟨-, hclient⟩
    · cases heq
      exact .inl ⟨delivery, token, expire, rfl, hgranted, hclient⟩
    · exact .inr hclient

/-- A token that can be shown is held all the time if one is held at first and every token that is
granted can be shown. -/
theorem holdsThroughout_of_grants {board : Board R} (hheld : board.client.HoldsToken)
    {moves : List (Move R)}
    (hgrants : ∀ delivery, .refreshDelivery delivery ∈ moves → ∀ token expire,
      Grants delivery token expire → Http.isHeaderText ("Bearer " ++ token) = true) :
    board.HoldsThroughout moves := by
  induction moves generalizing board with
  | nil =>
    intro before hbefore
    rw [List.prefix_nil.mp hbefore]
    exact hheld
  | cons move rest ih =>
    intro before hbefore
    cases before with
    | nil => exact hheld
    | cons first before =>
      obtain ⟨rfl, hrest⟩ := List.cons_prefix_cons.mp hbefore
      have hnext : (board.step first).2.client.HoldsToken := by
        rcases step_client_cases board first with
          ⟨delivery, token, expire, rfl, hgranted, hclient⟩ | hclient
        · rw [hclient]
          exact ⟨token, rfl, hgrants delivery List.mem_cons_self token expire hgranted⟩
        · rw [hclient]
          exact hheld
      exact ih hnext (fun delivery hmem => hgrants delivery (List.mem_cons_of_mem _ hmem)) before
        hrest

/-- The turns in which a client takes some answers. -/
def turnsOf (client : Client) (answers : List Http.Delivery) : List Turn :=
  answers.map (Turn.mk client)

theorem eq_of_mem_turnsOf {client builder : Client} {answers : List Http.Delivery}
    (hmem : builder ∈ client :: (turnsOf client answers).map (·.client)) : builder = client := by
  rcases List.mem_cons.mp hmem with rfl | hmem
  · rfl
  · rw [turnsOf, List.map_map] at hmem
    obtain ⟨answer, -, rfl⟩ := List.mem_map.mp hmem
    rfl

/-- What the task at a place sends in a run, credentials aside. -/
def sentAt (board : Board R) (place : Nat) (moves : List (Move R)) : List Http.Request :=
  (requestsAt place (board.run moves).1).map Http.Request.bare

section

variable {alone : Client} (halone : alone.HoldsToken)

include halone

/-- A task that has become a job but for what it is yet to send, and for credentials, is so after
every run: what it owed and what the job sends is what it sends and what it owes then. -/
theorem requestsAt_of_task {board : Board R} {place : Nat} {task : Task R} {job : Job R}
    (htask : board.tasks[place]? = some task) (hjob : (task.settle alone).bare = job.bare)
    (hsettings : board.client.settings = alone.settings) {moves : List (Move R)}
    (hheld : board.HoldsThroughout moves) :
    ∃ last, (board.run moves).2.tasks[place]? = some last ∧
      (last.settle alone).bare =
        (job.afterTurns (turnsOf alone (board.answers place moves))).bare ∧
      task.owed alone ++
          (job.sendings (turnsOf alone (board.answers place moves))).map (·.request.bare) =
        board.sentAt place moves ++ last.owed alone := by
  induction moves generalizing board task job with
  | nil => exact ⟨task, htask, hjob, List.append_nil _⟩
  | cons move rest ih =>
    have hsame : (board.step move).2.client.settings = alone.settings :=
      (step_settings board move).trans hsettings
    obtain ⟨after, hafter, hmoved⟩ := step_of_task htask move
    rcases hmoved with ⟨rfl, hnone, hnothing⟩ | ⟨hsend, hnone, hsent⟩ |
      ⟨delivery, hreceive, hanswer, hnothing⟩
    · -- a move that does not concern the task
      obtain ⟨last, hlast, hsettled, hsent⟩ := ih hafter hjob hsame hheld.step
      refine ⟨last, hlast, ?_, ?_⟩
      · rw [answers, hnone]
        exact hsettled
      · rw [answers, hnone, sentAt, run, requestsAt_append, hnothing]
        exact hsent
    · -- the task sends what it owed
      have hsettle := Task.settle_send hheld.begin halone hsettings hsend
      obtain ⟨last, hlast, hsettled, hmore⟩ := ih hafter (hsettle.trans hjob) hsame hheld.step
      refine ⟨last, hlast, ?_, ?_⟩
      · rw [answers, hnone]
        exact hsettled
      · rw [answers, hnone, sentAt, run, requestsAt_append, hsent, List.map_append,
          List.append_assoc]
        rw [sentAt] at hmore
        rw [Option.toList_none, List.nil_append, ← hmore, ← List.append_assoc,
          Task.pending_append_owed, hsettle, Task.owed_of_send hsend]
    · -- the answer is a turn of the job, after which the task owes what the job sends
      obtain ⟨hsettle, hpending⟩ := Task.settle_receive alone hreceive
      have howed := Task.owed_of_receive alone hreceive
      have hresume : (after.settle alone).bare = (job.resume alone delivery).bare := by
        rw [hsettle, ← Job.resume_bare, hjob, Job.resume_bare]
      obtain ⟨last, hlast, hsettled, hsent⟩ := ih hafter hresume hsame hheld.step
      refine ⟨last, hlast, ?_, ?_⟩
      · rw [answers, hanswer]
        exact hsettled
      · have hnew : (job.resume alone delivery).sending?.toList.map (·.request.bare) =
            after.owed alone := by
          rw [Job.sending?_bare, ← hresume, ← Task.pending_append_owed, hpending]
          rfl
        rw [sentAt] at hsent
        rw [answers, hanswer, sentAt, run, requestsAt_append, hnothing, howed, List.nil_append,
          List.nil_append, ← hsent]
        rw [Option.toList_some, turnsOf, List.singleton_append, List.map_cons, Job.sendings,
          List.map_append, hnew]
        rfl

/-- What a task sends that begins is what its consultation sends alone. -/
theorem requestsAt_beginTask {board : Board R} (hsettings : board.client.settings = alone.settings)
    {consultation : Consultation R} {later : List (Move R)}
    (hheld : board.HoldsThroughout (.beginTask consultation :: later)) :
    ∃ task,
      (board.run (.beginTask consultation :: later)).2.tasks[board.tasks.length]? = some task ∧
      (task.settle alone).bare = ((Job.start alone consultation).afterTurns (turnsOf alone
        (board.answers board.tasks.length (.beginTask consultation :: later)))).bare ∧
      (Job.sendingsFrom alone consultation (turnsOf alone
        (board.answers board.tasks.length (.beginTask consultation :: later)))).map
          (·.request.bare) =
        board.sentAt board.tasks.length (.beginTask consultation :: later) ++
          task.owed alone := by
  have htask : (board.step (.beginTask consultation)).2.tasks[board.tasks.length]? =
      some (Task.start consultation) :=
    List.getElem?_concat_length
  have hjob := congrArg Job.bare (Task.settle_start alone consultation)
  obtain ⟨task, hlast, hsettled, hsent⟩ :=
    requestsAt_of_task halone htask hjob hsettings hheld.step
  refine ⟨task, hlast, hsettled, ?_⟩
  -- a task that begins owes what its job sends first
  have howed : (Job.start alone consultation).sending?.toList.map (·.request.bare) =
      (Task.start consultation).owed alone := by
    rw [Job.sending?_bare, ← hjob, ← Task.pending_append_owed, Task.pending?_start]
    rfl
  have hbegun : requestsAt board.tasks.length (board.step (.beginTask consultation)).1 = [] := by
    have heffects := requestsAt_effectsOf board.tasks.length (Task.start consultation)
    rw [Task.pending?_start] at heffects
    exact heffects
  rw [Job.sendingsFrom, List.map_append, howed, sentAt, run, requestsAt_append, hbegun,
    List.nil_append]
  exact hsent

end

/-- A move that begins no task does nothing at a place where there is none. -/
theorem step_of_no_task {board : Board R} {place : Nat} (hplace : board.tasks.length ≤ place)
    {move : Move R} (hbegins : begun [move] = []) :
    (board.step move).2.tasks.length = board.tasks.length ∧
      requestsAt place (board.step move).1 = [] ∧ board.answer? place move = none := by
  have hnone : board.tasks[place]? = none := List.getElem?_eq_none hplace
  have hadvance (target : Nat) (move : Task R → Option (Task R)) :
      (board.advance target (board.tasks[target]?.bind move)).2.tasks.length =
          board.tasks.length ∧
        requestsAt place (board.advance target (board.tasks[target]?.bind move)).1 = [] := by
    cases hmoved : board.tasks[target]?.bind move with
    | none => exact ⟨rfl, rfl⟩
    | some after =>
      -- there is a task at the target, and so the target is another place
      have hne : target ≠ place := by
        rintro rfl
        simp [hnone] at hmoved
      exact ⟨List.length_set, requestsAt_effectsOf_of_ne hne after⟩
  cases move with
  | beginTask consultation => cases hbegins
  | send target =>
    obtain ⟨hlength, hnothing⟩ := hadvance target (Task.send? board.client)
    exact ⟨hlength, hnothing, rfl⟩
  | delivery target delivery =>
    obtain ⟨hlength, hnothing⟩ := hadvance target (Task.receive? delivery)
    exact ⟨hlength, hnothing, by simp [answer?, hnone]⟩
  | refresh =>
    obtain ⟨htasks, hnothing⟩ := board.step_of_refresh (.inl rfl)
    exact ⟨congrArg List.length htasks, hnothing place, rfl⟩
  | refreshDelivery delivery =>
    obtain ⟨htasks, hnothing⟩ := board.step_of_refresh (.inr ⟨delivery, rfl⟩)
    exact ⟨congrArg List.length htasks, hnothing place, rfl⟩

/-- The task at a place sends what its consultation sends alone, given the same answers, but for
what it is yet to send; and it becomes what the consultation becomes alone. -/
theorem requestsAt_of_begun {alone : Client} (halone : alone.HoldsToken) {board : Board R}
    {place : Nat} (hplace : board.tasks.length ≤ place) {moves : List (Move R)}
    {consultation : Consultation R}
    (hbegun : (begun moves)[place - board.tasks.length]? = some consultation)
    (hsettings : board.client.settings = alone.settings) (hheld : board.HoldsThroughout moves) :
    ∃ task, (board.run moves).2.tasks[place]? = some task ∧
      (task.settle alone).bare = ((Job.start alone consultation).afterTurns
        (turnsOf alone (board.answers place moves))).bare ∧
      (Job.sendingsFrom alone consultation (turnsOf alone (board.answers place moves))).map
          (·.request.bare) =
        board.sentAt place moves ++ task.owed alone := by
  induction moves generalizing board with
  | nil => cases hbegun
  | cons move rest ih =>
    have hsame : (board.step move).2.client.settings = alone.settings :=
      (step_settings board move).trans hsettings
    by_cases hbegins : begun [move] = []
    · -- no task begins, and the place is as empty as it was
      obtain ⟨hlength, hnothing, hnone⟩ := step_of_no_task hplace hbegins
      have hlater : begun (move :: rest) = begun rest := by
        rw [← List.singleton_append, begun, List.filterMap_append]
        change begun [move] ++ begun rest = begun rest
        rw [hbegins, List.nil_append]
      rw [hlater, ← hlength] at hbegun
      rw [answers, hnone, sentAt, run, requestsAt_append, hnothing]
      exact ih (hlength ▸ hplace) hbegun hsame hheld.step
    · obtain ⟨first, rfl⟩ : ∃ first, move = .beginTask first := by
        cases move with
        | beginTask first => exact ⟨first, rfl⟩
        | send | delivery | refresh | refreshDelivery => exact absurd rfl hbegins
      by_cases hhere : board.tasks.length = place
      · subst hhere
        rw [Nat.sub_self] at hbegun
        obtain rfl := Option.some.inj hbegun
        exact requestsAt_beginTask halone hsettings hheld
      · -- the task begins before this place, where still none has begun
        have hlater : board.tasks.length + 1 ≤ place := Nat.lt_of_le_of_ne hplace hhere
        have hlength : (board.step (.beginTask first)).2.tasks.length = board.tasks.length + 1 :=
          List.length_append
        have hindex : place - board.tasks.length = place - (board.tasks.length + 1) + 1 := by
          omega
        have hnothing : requestsAt place (board.step (.beginTask first)).1 = [] :=
          requestsAt_effectsOf_of_ne hhere _
        rw [hindex, ← hlength] at hbegun
        rw [answers, sentAt, run, requestsAt_append, hnothing]
        exact ih (hlength ▸ hlater) hbegun hsame hheld.step

end Board

end Platform

end ChatSteward
